import Caixinha.Effects.BackupEnvelope

/-! What inspection and extraction of an envelope have seen of its members where they pass, and which
files an extracted directory holds. -/
namespace Caixinha.Effects.EnvelopeMembers
open Caixinha.Library PosixPaths Fallible Keyed Caixinha.Model.BackupEnvelope Caixinha.Effects.BackupEnvelope

variable {env : TransportEnv} {dir : Directory} {e : Envelope} {manifest metadata : Fields} {m : Member}
  {entries : List (String × Fields)} {content : Bytes} {path name : String} {maxBytes : Nat}

section Members

/-- Names and sizes pass the loop that inspection and extraction begin with. -/
structure Readable (maxBytes : Nat) (e : Envelope) : Prop where
  safe : ∀ m ∈ e.members, safeMemberName m.name = true ∧ m.isRegular = true
  size : (e.members.map fun m => m.content.length).sum ≤ maxBytes
  names : (e.members.map Member.name).Nodup

/-- A member with a name and a content. -/
def Has (e : Envelope) (name : String) (content : Bytes) : Prop :=
  ∃ m ∈ e.members, m.name = name ∧ m.content = content

theorem checkMember_eq_ok {total next : Nat} : checkMember maxBytes total m = .ok next ↔
    (safeMemberName m.name = true ∧ m.isRegular = true) ∧ total + m.content.length ≤ maxBytes ∧
      next = total + m.content.length := by
  simp only [checkMember, bind_eq_ok, refuse_eq_ok, pure_eq_ok, not_or, not_not, not_lt]
  constructor
  · rintro ⟨-, hsafe, -, hsize, rfl⟩
    exact ⟨hsafe, hsize, rfl⟩
  · rintro ⟨hsafe, hsize, rfl⟩
    exact ⟨(), hsafe, (), hsize, rfl⟩

theorem members_eq_ok {members : List Member} {total last : Nat} (htotal : total ≤ maxBytes) :
    members.foldlM (checkMember maxBytes) total = .ok last ↔
      (∀ m ∈ members, safeMemberName m.name = true ∧ m.isRegular = true) ∧
        total + (members.map fun m => m.content.length).sum ≤ maxBytes ∧
        last = total + (members.map fun m => m.content.length).sum := by
  induction members generalizing total with
  | nil =>
    rw [List.foldlM_nil, pure_eq_ok]
    constructor
    · rintro rfl
      exact ⟨List.forall_mem_nil _, htotal, rfl⟩
    · rintro ⟨-, -, rfl⟩
      rfl
  | cons m members ih =>
    rw [List.foldlM_cons, bind_eq_ok, List.forall_mem_cons, List.map_cons, List.sum_cons]
    constructor
    · rintro ⟨next, hnext, hrest⟩
      obtain ⟨hsafe, hsize, rfl⟩ := checkMember_eq_ok.mp hnext
      obtain ⟨hall, hsum, rfl⟩ := (ih hsize).mp hrest
      exact ⟨⟨hsafe, hall⟩, by omega, by omega⟩
    · rintro ⟨⟨hsafe, hall⟩, hsum, rfl⟩
      have hsize : total + m.content.length ≤ maxBytes := by omega
      exact ⟨_, checkMember_eq_ok.mpr ⟨hsafe, hsize, rfl⟩, (ih hsize).mpr ⟨hall, by omega, by omega⟩⟩

theorem manifestMember_eq_ok : manifestMember maxBytes e = .ok content ↔
    Readable maxBytes e ∧ Has e "manifest.json" content ∧ content.length ≤ 1024 * 1024 := by
  constructor
  · intro h
    simp only [manifestMember, bind_eq_ok, refuse_eq_ok, not_not] at h
    obtain ⟨total, hmembers, _, hnames, h⟩ := h
    obtain ⟨hsafe, hsize, -⟩ := (members_eq_ok (Nat.zero_le _)).mp hmembers
    split at h
    · cases h
    · rename_i m hfind
      simp only [bind_eq_ok, refuse_eq_ok, not_lt, pure_eq_ok] at h
      obtain ⟨_, hsmall, rfl⟩ := h
      obtain ⟨hm, hname⟩ := (find?_eq_some_iff hnames).mp hfind
      exact ⟨⟨hsafe, by omega, hnames⟩, ⟨m, hm, hname, rfl⟩, hsmall⟩
  · rintro ⟨⟨hsafe, hsize, hnames⟩, ⟨m, hm, hname, rfl⟩, hsmall⟩
    have hfind := (find?_eq_some_iff hnames).mpr ⟨hm, hname⟩
    simp only [manifestMember, hfind, bind_eq_ok, refuse_eq_ok, not_not, not_lt, pure_eq_ok]
    exact ⟨_, (members_eq_ok (Nat.zero_le _)).mpr ⟨hsafe, by omega, rfl⟩, (), hnames, (), hsmall, trivial⟩

/-- An archive with the members its manifest lists. -/
structure Listed (env : TransportEnv) (maxBytes : Nat) (e : Envelope) (manifest : Fields)
    (entries : List (String × Fields)) : Prop where
  fileSize : e.fileSize ≤ maxBytes
  readable : Readable maxBytes e
  content : ∃ content, Has e "manifest.json" content ∧ content.length ≤ 1024 * 1024 ∧
    env.readJson content = some (.obj manifest)
  lists : Lists manifest entries
  names : SameNames (e.members.map Member.name) (backupPaths entries)

/-- The size and the digest of a member are those of its metadata. -/
def Described (env : TransportEnv) (e : Envelope) (name : String) (metadata : Fields) : Prop :=
  ∃ content, Has e name content ∧ describes env metadata content = true

/-- The size and the digest of the dump are those the manifest gives of it. -/
def ArchiveDescribed (env : TransportEnv) (e : Envelope) (manifest : Fields) : Prop :=
  ∃ archive, dictGet manifest "archive" = .obj archive ∧ dictGet archive "filename" = .str "postgres.dump.age" ∧
    Described env e "postgres.dump.age" archive

theorem Readable.unique (h : Readable maxBytes e) {content' : Bytes} (hhas : Has e name content)
    (hhas' : Has e name content') : content = content' := by
  obtain ⟨m, hm, rfl, rfl⟩ := hhas
  obtain ⟨m', hm', hname, rfl⟩ := hhas'
  rw [List.inj_on_of_nodup_map h.names hm' hm hname]

/-- The manifest of an archive is the one that its member reads as. -/
theorem Listed.unique {manifest' : Fields} {entries' : List (String × Fields)}
    (h : Listed env maxBytes e manifest entries) (h' : Listed env maxBytes e manifest' entries') :
    manifest = manifest' ∧ entries = entries' := by
  obtain ⟨content, hhas, -, hread⟩ := h.content
  obtain ⟨content', hhas', -, hread'⟩ := h'.content
  rw [h.readable.unique hhas hhas', hread', Option.some.injEq, Document.obj.injEq] at hread
  subst hread
  exact ⟨rfl, h.lists.unique h'.lists⟩

theorem Listed.exists_has (h : Listed env maxBytes e manifest entries) (hname : name ∈ backupPaths entries) :
    ∃ content, Has e name content := by
  obtain ⟨m, hm, rfl⟩ := List.mem_map.mp (h.names.2 name hname)
  exact ⟨m.content, m, hm, rfl, rfl⟩

theorem mem_backupPaths : name ∈ backupPaths entries ↔
    name = "manifest.json" ∨ name = "postgres.dump.age" ∨ ∃ x ∈ entries, entryPath x = name := by
  simp [backupPaths]

end Members

section Inspection

/-- The members an envelope must have, with what the manifest says of them. -/
def expectedMembers (manifest : Fields) (entries : List (String × Fields)) : List (String × Document) :=
  [("manifest.json", .null), ("postgres.dump.age", dictGet manifest "archive")] ++
    entries.map fun x => (entryPath x, .obj x.2)

private theorem evidence_eq_ok {evidence : List Document} {found : List (String × Document)} :
    evidence.mapM evidenceEntry = .ok found ↔
      ∃ entries, List.Forall₂ Entry evidence entries ∧ found = entries.map fun x => (x.1, .obj x.2) := by
  rw [mapM_eq_ok_iff]
  constructor
  · intro h
    induction h with
    | nil => exact ⟨[], .nil, rfl⟩
    | cons hx _ ih =>
      obtain ⟨entries, hall, rfl⟩ := ih
      obtain ⟨metadata, hmetadata, hentry⟩ := evidenceEntry_eq_ok.mp hx
      exact ⟨_ :: entries, .cons hentry hall, by rw [List.map_cons, ← hmetadata]⟩
  · rintro ⟨entries, hall, rfl⟩
    induction hall with
    | nil => exact .nil
    | cons hentry _ ih => exact .cons (evidenceEntry_eq_ok.mpr ⟨_, rfl, hentry⟩) ih

private theorem expectedMembers_eq (manifest : Fields) (entries : List (String × Fields)) :
    [("manifest.json", Document.null), ("postgres.dump.age", dictGet manifest "archive")] ++
        (entries.map fun x => (x.1, Document.obj x.2)).map (fun entry => ("evidence/" ++ entry.1, entry.2)) =
      expectedMembers manifest entries := by
  rw [List.map_map]
  rfl

private theorem keys_expectedMembers : (expectedMembers manifest entries).map Prod.fst = backupPaths entries := by
  rw [expectedMembers, backupPaths, List.map_append, List.map_map]
  rfl

theorem inspectEnvelope_eq_ok : inspectEnvelope env maxBytes e = .ok manifest ↔
    hasBackupId manifest = true ∧ ∃ entries, Listed env maxBytes e manifest entries ∧
      ∀ m ∈ e.members, inspectMember env (expectedMembers manifest entries) m = .ok () := by
  constructor
  · intro h
    simp only [inspectEnvelope, bind_eq_ok, refuse_eq_ok, not_lt] at h
    obtain ⟨_, hfile, content, hcontent, h⟩ := h
    obtain ⟨hreadable, hhas, hsmall⟩ := manifestMember_eq_ok.mp hcontent
    split at h
    · cases h
    · rename_i read hread
      simp only [bind_eq_ok, refuse_eq_ok, not_not] at h
      obtain ⟨_, hid, h⟩ := h
      split at h
      · rename_i evidence hevidence
        simp only [bind_eq_ok, refuse_eq_ok, not_not, pure_eq_ok, evidence_eq_ok, forM_eq_ok] at h
        obtain ⟨_, hcounted, _, ⟨entries, hall, rfl⟩, _, hnames, _, hmembers, rfl⟩ := h
        rw [expectedMembers_eq, keys_expectedMembers] at hnames
        rw [expectedMembers_eq] at hmembers
        exact ⟨hid, entries, ⟨hfile, hreadable, ⟨content, hhas, hsmall, hread⟩, ⟨evidence, hevidence, hcounted, hall⟩,
          hnames⟩, hmembers⟩
      · cases h
    · cases h
  · rintro ⟨hid, entries, ⟨hfile, hreadable, ⟨content, hhas, hsmall, hread⟩, ⟨evidence, hevidence, hcounted, hall⟩,
      hnames⟩, hmembers⟩
    simp only [inspectEnvelope, bind_eq_ok, refuse_eq_ok, not_lt]
    refine ⟨(), hfile, content, manifestMember_eq_ok.mpr ⟨hreadable, hhas, hsmall⟩, ?_⟩
    simp only [hread, hevidence, bind_eq_ok, refuse_eq_ok, not_not, pure_eq_ok, evidence_eq_ok, forM_eq_ok]
    refine ⟨(), hid, (), hcounted, _, ⟨entries, hall, rfl⟩, (), ?_, (), ?_, trivial⟩
    · rw [expectedMembers_eq, keys_expectedMembers]
      exact hnames
    · rw [expectedMembers_eq]
      exact hmembers

theorem inspectMember_eq_ok {expected : List (String × Document)} : inspectMember env expected m = .ok () ↔
    expectedFor expected m.name = .null ∨ ∃ metadata, expectedFor expected m.name = .obj metadata ∧
      dictGet metadata "filename" = .str (lastPart m.name) ∧ describes env metadata m.content = true := by
  unfold inspectMember
  cases hexpected : expectedFor expected m.name with
  | null => simp
  | obj metadata =>
    simp only [bind_eq_ok, refuse_eq_ok, fieldsOf_eq_ok, not_or, not_not, isText_iff, describes, Bool.and_eq_true,
      Document.obj.injEq, reduceCtorEq, false_or]
    constructor
    · rintro ⟨_, rfl, _, ⟨hname, hsize⟩, hsha⟩
      exact ⟨_, rfl, hname, hsize, hsha⟩
    · rintro ⟨_, rfl, hname, hsize, hsha⟩
      exact ⟨_, rfl, (), ⟨hname, hsize⟩, hsha⟩
  | bool | num | nonFinite | str | arr => simp [fieldsOf, bind, Except.bind]

/-- What the manifest says last of a member. -/
theorem expectedFor_mem (hname : name ∈ backupPaths entries) :
    (name, expectedFor (expectedMembers manifest entries) name) ∈ expectedMembers manifest entries := by
  rw [← @keys_expectedMembers manifest] at hname
  obtain ⟨x, hx, rfl, hfind⟩ := exists_find?_reverse_of_mem hname
  rw [expectedFor, hfind]
  exact hx

theorem mem_expectedMembers {d : Document} : (name, d) ∈ expectedMembers manifest entries ↔
    (name = "manifest.json" ∧ d = .null) ∨ (name = "postgres.dump.age" ∧ d = dictGet manifest "archive") ∨
      ∃ x ∈ entries, entryPath x = name ∧ .obj x.2 = d := by
  simp [expectedMembers]

theorem entryPath_ne {x : String × Fields} {other : String} (h : other.toList.head? ≠ some 'e') : entryPath x ≠ other := by
  rintro rfl
  exact h (by rw [entryPath, String.toList_append]; rfl)

/-- Inspection passes a member that the manifest describes. -/
theorem Listed.inspectMember_eq (h : Listed env maxBytes e manifest entries) (hm : m ∈ e.members)
    (harchive : ArchiveDescribed env e manifest) (hentries : ∀ x ∈ entries, Described env e (entryPath x) x.2) :
    inspectMember env (expectedMembers manifest entries) m = .ok () := by
  have hcontent : ∀ {metadata : Fields}, Described env e m.name metadata → describes env metadata m.content = true := by
    rintro metadata ⟨content, hhas, hdescribes⟩
    rwa [← h.readable.unique hhas ⟨m, hm, rfl, rfl⟩]
  rw [inspectMember_eq_ok]
  rcases mem_expectedMembers.mp (expectedFor_mem (h.names.1 _ (List.mem_map_of_mem hm))) with
    ⟨-, hnull⟩ | ⟨hname, hfound⟩ | ⟨x, hx, hpath, hfound⟩
  · exact .inl hnull
  · obtain ⟨archive, hget, hfilename, hdescribed⟩ := harchive
    rw [← hname] at hdescribed
    refine .inr ⟨archive, hfound.trans hget, ?_, hcontent hdescribed⟩
    rw [hfilename, hname]
    exact congrArg Document.str (by decide)
  · have hdescribed := hentries x hx
    rw [hpath] at hdescribed
    refine .inr ⟨x.2, hfound.symm, ?_, hcontent hdescribed⟩
    rw [← hpath, entryPath, (h.lists.ageFile hx).lastPart_path]
    exact h.lists.filename hx

theorem entryPath_inj {x y : String × Fields} : entryPath x = entryPath y ↔ x.1 = y.1 :=
  String.append_right_inj "evidence/"

end Inspection

section Extraction

private theorem joined_of_mem (h : Lists manifest entries) (hname : name ∈ backupPaths entries) :
    joined (parts name) = name := by
  rcases mem_backupPaths.mp hname with rfl | rfl | ⟨x, hx, rfl⟩
  · decide
  · decide
  · exact (h.ageFile hx).joined_path

private theorem mem_extractedNodes {node : Node} : (path, node) ∈ extractedNodes e ↔
    ∃ m ∈ e.members, ∃ inode, joined (parts m.name) = path ∧ node = .file m.content inode ∧
      e.members[inode]? = some m := by
  rw [extractedNodes, List.mem_mapIdx]
  constructor
  · rintro ⟨i, hi, h⟩
    cases h
    exact ⟨_, List.getElem_mem hi, i, rfl, rfl, List.getElem?_eq_getElem hi⟩
  · rintro ⟨m, -, i, rfl, rfl, hget⟩
    obtain ⟨hi, rfl⟩ := List.getElem?_eq_some_iff.mp hget
    exact ⟨i, hi, rfl⟩

theorem Listed.keys (h : Listed env maxBytes e manifest entries) :
    (extractedNodes e).map Prod.fst = e.members.map Member.name := by
  rw [extractedNodes]
  refine List.ext_getElem (by simp) fun i hi hi' => ?_
  rw [List.getElem_map, List.getElem_mapIdx, List.getElem_map]
  exact joined_of_mem h.lists (h.names.1 _ (List.mem_map_of_mem (List.getElem_mem _)))

/-- The extracted directory holds the members of the archive. -/
theorem Listed.holds_iff (h : Listed env maxBytes e manifest entries) (hnodes : dir.nodes = extractedNodes e) :
    Holds dir path content ↔ Has e path content := by
  constructor
  · rintro ⟨inode, hnode⟩
    rw [node?_eq_some, hnodes, mem_extractedNodes] at hnode
    obtain ⟨m, hm, _, hpath, hfile, -⟩ := hnode
    rw [joined_of_mem h.lists (h.names.1 _ (List.mem_map_of_mem hm))] at hpath
    rw [Node.file.injEq] at hfile
    exact ⟨m, hm, hpath, hfile.1.symm⟩
  · rintro ⟨m, hm, rfl, rfl⟩
    obtain ⟨inode, hget⟩ := List.mem_iff_getElem?.mp hm
    refine ⟨inode, ?_⟩
    rw [node?_eq_some, hnodes, mem_extractedNodes]
    exact ⟨m, hm, inode, joined_of_mem h.lists (h.names.1 _ (List.mem_map_of_mem hm)), rfl, hget⟩

theorem Listed.verified_iff (h : Listed env maxBytes e manifest entries) (hnodes : dir.nodes = extractedNodes e) :
    Verified env dir path metadata ↔ Described env e path metadata := by
  simp only [Verified, Described, h.holds_iff hnodes]

/-- The extracted directory is a backup when the archive and every entry describe their members. -/
theorem Listed.complete_iff (h : Listed env maxBytes e manifest entries) (hnodes : dir.nodes = extractedNodes e) :
    Complete env dir manifest entries ↔
      ArchiveDescribed env e manifest ∧ ∀ x ∈ entries, Described env e (entryPath x) x.2 := by
  constructor
  · rintro ⟨-, ⟨archive, hget, hname, hverified⟩, hentries, -, -⟩
    exact ⟨⟨archive, hget, hname, (h.verified_iff hnodes).mp hverified⟩,
      fun x hx => (h.verified_iff hnodes).mp (hentries x hx)⟩
  · rintro ⟨⟨archive, hget, hname, hdescribed⟩, hentries⟩
    refine ⟨h.lists, ⟨archive, hget, hname, (h.verified_iff hnodes).mpr hdescribed⟩,
      fun x hx => (h.verified_iff hnodes).mpr (hentries x hx), ?_, ?_⟩
    · intro n hn
      rw [hnodes] at hn
      obtain ⟨m, -, inode, -, hfile, -⟩ := mem_extractedNodes.mp hn
      exact ⟨m.content, inode, hfile⟩
    · rw [hnodes, h.keys]
      exact h.names

theorem Listed.carries_iff (h : Listed env maxBytes e manifest entries) (hnodes : dir.nodes = extractedNodes e)
    (hprivate : dir.isPrivate = true) {read : Fields} :
    Carries env dir read ↔ read = manifest ∧ hasBackupId manifest = true := by
  obtain ⟨content, hhas, -, hread⟩ := h.content
  constructor
  · rintro ⟨⟨content', hholds, hread'⟩, -, hid⟩
    rw [h.readable.unique ((h.holds_iff hnodes).mp hholds) hhas, hread] at hread'
    cases hread'
    exact ⟨rfl, hid⟩
  · rintro ⟨rfl, hid⟩
    exact ⟨⟨content, (h.holds_iff hnodes).mpr hhas, hread⟩, hprivate, hid⟩

private theorem isCompleteLocal_of (h : hasBackupId manifest = true) : isCompleteLocal manifest = true := by
  rw [hasBackupId, Bool.and_eq_true] at h
  exact h.1

/-- The system takes every file of a backup. -/
def Creatable (env : TransportEnv) (entries : List (String × Fields)) : Prop :=
  ∀ path ∈ backupPaths entries, env.creatable path = true

theorem Listed.creatable_iff (h : Listed env maxBytes e manifest entries) :
    (extractedNodes e).all (fun n => env.creatable n.1) = true ↔ Creatable env entries := by
  have hpaths : ∀ path, path ∈ (extractedNodes e).map Prod.fst ↔ path ∈ backupPaths entries := by
    intro path
    rw [h.keys]
    exact ⟨h.names.1 path, h.names.2 path⟩
  rw [List.all_eq_true, Creatable]
  constructor
  · intro hall path hpath
    obtain ⟨n, hn, rfl⟩ := List.mem_map.mp ((hpaths path).mpr hpath)
    exact hall n hn
  · intro hall n hn
    exact hall n.1 ((hpaths n.1).mp (List.mem_map_of_mem hn))

theorem extractEnvelope_eq_ok {sha : Option String} {targetExists : Bool} :
    extractEnvelope env maxBytes e sha targetExists = .ok dir ↔
      (¬ (sha.any fun sha => sha ≠ "" ∧ e.sha256 ≠ sha) = true) ∧ ¬ targetExists = true ∧ dir.isPrivate = true ∧
        dir.nodes = extractedNodes e ∧ ∃ manifest entries, hasBackupId manifest = true ∧
          Listed env maxBytes e manifest entries ∧ Creatable env entries ∧ Complete env dir manifest entries := by
  constructor
  · intro h
    simp only [extractEnvelope, bind_eq_ok, refuse_eq_ok, not_lt] at h
    obtain ⟨_, hfile, _, hsha, _, hexists, content, hcontent, h⟩ := h
    obtain ⟨hreadable, hhas, hsmall⟩ := manifestMember_eq_ok.mp hcontent
    split at h
    · cases h
    · rename_i manifest hread
      simp only [bind_eq_ok, refuse_eq_ok, not_not] at h
      obtain ⟨_, -, h⟩ := h
      split at h
      · rename_i evidence hevidence
        simp only [bind_eq_ok, refuse_eq_ok, not_not, evidence_eq_ok] at h
        obtain ⟨_, ⟨entries, hall, rfl⟩, _, hcounted, _, hnames, h⟩ := h
        rw [List.map_map] at hnames
        have hlisted : Listed env maxBytes e manifest entries :=
          ⟨hfile, hreadable, ⟨content, hhas, hsmall, hread⟩, ⟨evidence, hevidence, hcounted, hall⟩, hnames⟩
        split at h
        · cases h
        · rename_i hcreated
          rw [not_not, hlisted.creatable_iff] at hcreated
          split at h
          · simp only [bind_eq_ok, pure_eq_ok, readManifest_eq_ok, validatedLocalFiles_eq_ok] at h
            obtain ⟨read, hcarries, paths, ⟨entries', hcomplete, -⟩, rfl⟩ := h
            obtain ⟨rfl, hid⟩ := (hlisted.carries_iff rfl rfl).mp hcarries
            exact ⟨hsha, hexists, rfl, rfl, _, entries, hid, hlisted, hcreated,
              hlisted.lists.unique hcomplete.lists ▸ hcomplete⟩
          · cases h
      · cases h
    · cases h
  · rintro ⟨hsha, hexists, hprivate, hnodes, manifest, entries, hid, hlisted, hcreated, hcomplete⟩
    obtain ⟨content, hhas, hsmall, hread⟩ := hlisted.content
    obtain ⟨evidence, hevidence, hcounted, hall⟩ := hlisted.lists
    simp only [extractEnvelope, bind_eq_ok, refuse_eq_ok, not_lt]
    refine ⟨(), hlisted.fileSize, (), hsha, (), hexists, content,
      manifestMember_eq_ok.mpr ⟨hlisted.readable, hhas, hsmall⟩, ?_⟩
    simp only [hread, hevidence, bind_eq_ok, refuse_eq_ok, not_not, evidence_eq_ok]
    refine ⟨(), isCompleteLocal_of hid, _, ⟨entries, hall, rfl⟩, (), hcounted, (), ?_, ?_⟩
    · rw [List.map_map]
      exact hlisted.names
    · have hnew : ((extractedNodes e).map Prod.fst).Nodup := hlisted.keys ▸ hlisted.readable.names
      obtain ⟨isPrivate, nodes, keyed⟩ := dir
      cases hprivate
      cases hnodes
      rw [if_neg (not_not_intro (hlisted.creatable_iff.mpr hcreated)), dif_pos hnew]
      simp only [bind_eq_ok, pure_eq_ok, readManifest_eq_ok, validatedLocalFiles_eq_ok]
      exact ⟨manifest, (hlisted.carries_iff rfl rfl).mpr ⟨rfl, hid⟩, _, ⟨entries, hcomplete, rfl⟩, rfl⟩

end Extraction

end Caixinha.Effects.EnvelopeMembers
