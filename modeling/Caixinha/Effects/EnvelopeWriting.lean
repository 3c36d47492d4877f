import Caixinha.Effects.EnvelopeMembers

/-! The members that creation writes for the paths of a directory: one for each path, a regular one where
no path before it is another name of its file. -/
namespace Caixinha.Effects.EnvelopeWriting
open Caixinha.Library Fallible Caixinha.Model.BackupEnvelope Caixinha.Effects.BackupEnvelope
open Caixinha.Effects.EnvelopeMembers

variable {env : TransportEnv} {dir : Directory} {e : Envelope} {manifest : Fields}
  {entries : List (String × Fields)} {paths : List String} {content : Bytes} {path : String} {maxBytes : Nat}

/-- Two paths are no two names of one file. -/
def OneName (dir : Directory) (path path' : String) : Prop :=
  ∀ content content' inode, dir.node? path = some (.file content inode) →
    dir.node? path' = some (.file content' inode) → path = path'

/-- No file of the directory has two names. -/
def SingleNames (dir : Directory) : Prop := ∀ path path', OneName dir path path'

/-- Every path is a file of the directory. -/
def AllFiles (dir : Directory) (paths : List String) : Prop :=
  ∀ path ∈ paths, ∃ content inode, dir.node? path = some (.file content inode)

abbrev Written := List Member × List (Nat × String)

/-- The name and the content of each regular member are those of a file. -/
def Copies (dir : Directory) (members : List Member) : Prop :=
  ∀ m ∈ members, m.isRegular = true → Holds dir m.name m.content

private theorem forall_mem_append_singleton {p : Member → Prop} {members : List Member} {m : Member}
    (h : ∀ x ∈ members, p x) (hm : p m) : ∀ x ∈ members ++ [m], p x := by
  intro x hx
  rcases List.mem_append.mp hx with hx | hx
  · exact h x hx
  · exact List.mem_singleton.mp hx ▸ hm

theorem copies_writeMember {written : Written} (h : Copies dir written.1) :
    Copies dir (writeMember dir written path).1 := by
  unfold writeMember
  split
  · rename_i content inode hnode
    split
    · exact forall_mem_append_singleton h (by simp)
    · exact forall_mem_append_singleton h fun _ => ⟨inode, hnode⟩
  · exact h

theorem copies_writeMembers : Copies dir (writeMembers dir paths) := by
  have hfold : ∀ written : Written, Copies dir written.1 → Copies dir (paths.foldl (writeMember dir) written).1 := by
    induction paths with
    | nil => exact fun _ h => h
    | cons path paths ih => exact fun written h => ih _ (copies_writeMember h)
  exact hfold ([], []) fun m hm => by cases hm

theorem names_writeMember {written : Written} {inode : Nat} (h : dir.node? path = some (.file content inode)) :
    (writeMember dir written path).1.map Member.name = written.1.map Member.name ++ [path] := by
  unfold writeMember
  rw [h]
  dsimp only
  split <;> rw [List.map_append] <;> rfl

theorem names_writeMembers (h : AllFiles dir paths) : (writeMembers dir paths).map Member.name = paths := by
  have hfold : ∀ written : Written, (paths.foldl (writeMember dir) written).1.map Member.name =
      written.1.map Member.name ++ paths := by
    induction paths with
    | nil => simp
    | cons path paths ih =>
      intro written
      obtain ⟨⟨content, inode, hnode⟩, hrest⟩ := List.forall_mem_cons.mp h
      rw [List.foldl_cons, ih hrest, names_writeMember hnode, List.append_assoc]
      rfl
  exact hfold ([], [])

theorem sum_writeMembers (h : AllFiles dir paths) (hregular : ∀ m ∈ writeMembers dir paths, m.isRegular = true) :
    ((writeMembers dir paths).map fun m => m.content.length).sum = (paths.map (fileSize dir)).sum := by
  have hsizes : ∀ m ∈ writeMembers dir paths, m.content.length = fileSize dir m.name := by
    intro m hm
    obtain ⟨inode, hnode⟩ := copies_writeMembers m hm (hregular m hm)
    rw [fileSize, hnode]
  have hnames := congrArg (List.map (fileSize dir)) (names_writeMembers h)
  rw [List.map_map] at hnames
  rw [List.map_congr_left hsizes, ← hnames]
  rfl

section Links

/-- A path is no second name of a file already written. -/
def Fresh (dir : Directory) (inodes : List (Nat × String)) (path : String) : Prop :=
  ∀ content inode, dir.node? path = some (.file content inode) → ∀ w ∈ inodes, w.1 = inode → w.2 = path

/-- The inodes written so far are those of their paths. -/
def Recorded (dir : Directory) (inodes : List (Nat × String)) : Prop :=
  ∀ w ∈ inodes, ∃ content, dir.node? w.2 = some (.file content w.1)

theorem recorded_writeMember {written : Written} (h : Recorded dir written.2) :
    Recorded dir (writeMember dir written path).2 := by
  unfold writeMember
  split
  · rename_i content inode hnode
    split
    · exact h
    · intro w hw
      rcases List.mem_append.mp hw with hw | hw
      · exact h w hw
      · rw [List.mem_singleton.mp hw]
        exact ⟨content, hnode⟩
  · exact h

theorem SingleNames.fresh (hsingle : SingleNames dir) {inodes : List (Nat × String)} (h : Recorded dir inodes) :
    Fresh dir inodes path := by
  rintro content inode hnode w hw rfl
  obtain ⟨content', hnode'⟩ := h w hw
  exact hsingle _ _ _ _ _ hnode' hnode

/-- A fresh path is written as a regular member. -/
theorem writeMember_of_fresh {written : Written} {inode : Nat} (hnode : dir.node? path = some (.file content inode))
    (h : Fresh dir written.2 path) : writeMember dir written path =
      (written.1 ++ [{ name := path, isRegular := true, content }], written.2 ++ [(inode, path)]) := by
  have hany : ¬ (written.2.any fun w => decide (w.1 = inode ∧ w.2 ≠ path)) = true := by
    simp only [List.any_eq_true, decide_eq_true_eq, not_exists, not_and, not_not]
    exact fun w hw hinode => h content inode hnode w hw hinode
  unfold writeMember
  rw [hnode]
  exact if_neg hany

theorem regular_of_single (hsingle : SingleNames dir) (h : AllFiles dir paths) :
    ∀ m ∈ writeMembers dir paths, m.isRegular = true := by
  have hfold : ∀ written : Written, Recorded dir written.2 → (∀ m ∈ written.1, m.isRegular = true) →
      ∀ m ∈ (paths.foldl (writeMember dir) written).1, m.isRegular = true := by
    induction paths with
    | nil => exact fun _ _ hregular => hregular
    | cons path paths ih =>
      intro written hrecorded hregular
      obtain ⟨⟨content, inode, hnode⟩, hrest⟩ := List.forall_mem_cons.mp h
      refine ih hrest _ (recorded_writeMember hrecorded) ?_
      rw [writeMember_of_fresh hnode (hsingle.fresh hrecorded)]
      exact forall_mem_append_singleton hregular rfl
  exact hfold ([], []) (fun w hw => by cases hw) fun m hm => by cases hm

theorem mem_foldl_writeMember {written : Written} {m : Member} (h : m ∈ written.1) :
    m ∈ (paths.foldl (writeMember dir) written).1 := by
  induction paths generalizing written with
  | nil => exact h
  | cons path paths ih =>
    refine ih ?_
    unfold writeMember
    split
    · split <;> exact List.mem_append_left _ h
    · exact h

/-- A path that is not fresh leaves a link among the members. -/
theorem fresh_of_regular {written : Written} (hnode : ∃ content inode, dir.node? path = some (.file content inode))
    (h : ∀ m ∈ (writeMember dir written path).1, m.isRegular = true) : Fresh dir written.2 path := by
  obtain ⟨content, inode, hnode⟩ := hnode
  intro content' inode' hnode' w hw hinode
  rw [hnode, Option.some.injEq, Node.file.injEq] at hnode'
  by_contra hname
  have hany : (written.2.any fun w => decide (w.1 = inode ∧ w.2 ≠ path)) = true :=
    List.any_eq_true.mpr ⟨w, hw, by simpa using ⟨hinode.trans hnode'.2.symm, hname⟩⟩
  unfold writeMember at h
  rw [hnode] at h
  dsimp only at h
  rw [if_pos hany] at h
  exact absurd (h _ (List.mem_append_right _ (List.mem_singleton_self _))) (by simp)

private theorem oneName_of_regular (h : AllFiles dir paths) {written : Written}
    (hregular : ∀ m ∈ (paths.foldl (writeMember dir) written).1, m.isRegular = true) :
    (∀ path ∈ paths, Fresh dir written.2 path) ∧ paths.Pairwise (OneName dir) := by
  induction paths generalizing written with
  | nil => exact ⟨List.forall_mem_nil _, .nil⟩
  | cons path paths ih =>
    obtain ⟨hfile, hrest⟩ := List.forall_mem_cons.mp h
    rw [List.foldl_cons] at hregular
    have hfresh : Fresh dir written.2 path := fresh_of_regular hfile fun m hm => hregular m (mem_foldl_writeMember hm)
    obtain ⟨content, inode, hfound⟩ := hfile
    -- The rest is written after this path, whose inode is now recorded.
    obtain ⟨hothers, hpairwise⟩ := ih hrest hregular
    rw [writeMember_of_fresh hfound hfresh] at hothers
    refine ⟨List.forall_mem_cons.mpr ⟨hfresh, fun q hq content inode hnode w hw => ?_⟩,
      List.pairwise_cons.mpr ⟨fun q hq c c' i hnode hnode' => ?_, hpairwise⟩⟩
    · exact hothers q hq content inode hnode w (List.mem_append_left _ hw)
    · rw [hfound, Option.some.injEq, Node.file.injEq] at hnode
      exact hothers q hq c' i hnode' (inode, path) (List.mem_append_right _ (List.mem_singleton_self _)) hnode.2

theorem single_of_regular (h : AllFiles dir paths) (hregular : ∀ m ∈ writeMembers dir paths, m.isRegular = true) :
    ∀ path ∈ paths, ∀ path' ∈ paths, OneName dir path path' := by
  obtain ⟨-, hpairwise⟩ := oneName_of_regular h hregular
  have hflip : paths.Pairwise (flip (OneName dir)) :=
    hpairwise.imp fun hone content content' inode hnode hnode' => (hone content' content inode hnode' hnode).symm
  exact fun path hpath path' hpath' => hpairwise.forall_of_forall_of_flip (fun _ _ _ _ _ _ _ => rfl) hflip hpath hpath'

end Links

section Creation

theorem sortedPaths_perm : (sortedPaths entries).Perm (backupPaths entries) := by
  refine (List.perm_insertionSort _ _).trans ?_
  rw [backupPaths]
  exact List.perm_append_comm

theorem mem_sortedPaths : path ∈ sortedPaths entries ↔ path ∈ backupPaths entries := sortedPaths_perm.mem_iff

/-- An envelope of a validated directory, whose members are read as they were written. -/
structure Created (env : TransportEnv) (maxBytes : Nat) (dir : Directory) (e : Envelope) (manifest : Fields)
    (entries : List (String × Fields)) : Prop where
  carries : Carries env dir manifest
  complete : Complete env dir manifest entries
  members : e.members = writeMembers dir (sortedPaths entries)
  total : ((sortedPaths entries).map (fileSize dir)).sum ≤ maxBytes
  fileSize : e.fileSize ≤ maxBytes

theorem createEnvelope_eq_ok {archive : List Member → Envelope} {targetExists : Bool} :
    createEnvelope env archive maxBytes dir targetExists = .ok e ↔ ∃ manifest entries, Carries env dir manifest ∧
      Complete env dir manifest entries ∧ ¬ targetExists = true ∧
      ((sortedPaths entries).map (Model.BackupEnvelope.fileSize dir)).sum + 1024 * ((sortedPaths entries).length + 2) ≤
        maxBytes ∧ (archive (writeMembers dir (sortedPaths entries))).fileSize ≤ maxBytes ∧
      archive (writeMembers dir (sortedPaths entries)) = e := by
  simp only [createEnvelope, bind_eq_ok, refuse_eq_ok, not_lt, pure_eq_ok, validatedLocalFiles_eq_ok,
    readManifest_eq_ok]
  constructor
  · rintro ⟨manifest, hcarries, _, ⟨entries, hcomplete, rfl⟩, _, htarget, _, hestimate, _, hfile, he⟩
    exact ⟨manifest, entries, hcarries, hcomplete, htarget, hestimate, hfile, he⟩
  · rintro ⟨manifest, entries, hcarries, hcomplete, htarget, hestimate, hfile, he⟩
    exact ⟨manifest, hcarries, _, ⟨entries, hcomplete, rfl⟩, (), htarget, (), hestimate, (), hfile, he⟩

theorem created_of_createEnvelope {archive : List Member → Envelope} {targetExists : Bool}
    (hread : ∀ members, (archive members).members = members)
    (h : createEnvelope env archive maxBytes dir targetExists = .ok e) :
    ∃ manifest entries, Created env maxBytes dir e manifest entries := by
  obtain ⟨manifest, entries, hcarries, hcomplete, -, hestimate, hfile, rfl⟩ := createEnvelope_eq_ok.mp h
  exact ⟨manifest, entries, hcarries, hcomplete, hread _, by omega, hfile⟩

section Created
variable (h : Created env maxBytes dir e manifest entries)
include h

theorem Created.mem_paths : path ∈ sortedPaths entries ↔ path ∈ dir.nodes.map Prod.fst :=
  mem_sortedPaths.trans ⟨h.complete.names.2 path, h.complete.names.1 path⟩

theorem Created.allFiles : AllFiles dir (sortedPaths entries) := by
  intro path hpath
  obtain ⟨n, hn, rfl⟩ := List.mem_map.mp (h.mem_paths.mp hpath)
  obtain ⟨content, inode, hfile⟩ := h.complete.files n hn
  exact ⟨content, inode, node?_eq_some.mpr (hfile ▸ hn)⟩

theorem Created.names : e.members.map Member.name = sortedPaths entries := by
  rw [h.members, names_writeMembers h.allFiles]

/-- Where no member is a link, the members are the files of the directory. -/
theorem Created.has_iff (hregular : ∀ m ∈ e.members, m.isRegular = true) : Has e path content ↔ Holds dir path content := by
  have hcopies : ∀ m ∈ e.members, Holds dir m.name m.content := fun m hm =>
    copies_writeMembers m (h.members ▸ hm) (hregular m hm)
  constructor
  · rintro ⟨m, hm, rfl, rfl⟩
    exact hcopies m hm
  · intro hholds
    have hpath : path ∈ e.members.map Member.name := by
      rw [h.names, h.mem_paths]
      exact hholds.mem
    obtain ⟨m, hm, rfl⟩ := List.mem_map.mp hpath
    exact ⟨m, hm, rfl, (hcopies m hm).unique hholds⟩

theorem Created.single (hregular : ∀ m ∈ e.members, m.isRegular = true) : SingleNames dir := by
  intro path path' content content' inode hnode hnode'
  rw [h.members] at hregular
  exact single_of_regular h.allFiles hregular path (h.mem_paths.mpr (Holds.mem ⟨inode, hnode⟩)) path'
    (h.mem_paths.mpr (Holds.mem ⟨inode, hnode'⟩)) content content' inode hnode hnode'

theorem Created.safe_iff : (∀ m ∈ e.members, safeMemberName m.name = true) ↔ ∀ x ∈ entries, Portable x.1 := by
  have hall : (∀ m ∈ e.members, safeMemberName m.name = true) ↔
      ∀ path ∈ backupPaths entries, safeMemberName path = true := by
    rw [← List.forall_mem_map (P := fun name => safeMemberName name = true), h.names]
    exact forall_congr' fun path => by rw [mem_sortedPaths]
  rw [hall]
  constructor
  · intro hsafe x hx
    exact (h.complete.lists.ageFile hx).safe_iff.mp (hsafe _ (mem_backupPaths.mpr (.inr (.inr ⟨x, hx, rfl⟩))))
  · intro hportable path hpath
    rcases mem_backupPaths.mp hpath with rfl | rfl | ⟨x, hx, rfl⟩
    · decide
    · decide
    · exact (h.complete.lists.ageFile hx).safe_iff.mpr (hportable x hx)

/-- The names of the members differ where no entry is listed twice. -/
theorem Created.nodup_iff : (e.members.map Member.name).Nodup ↔ (entries.map Prod.fst).Nodup := by
  have hpaths : entries.map entryPath = (entries.map Prod.fst).map fun name => "evidence/" ++ name := by
    rw [List.map_map]
    rfl
  have hother : ∀ other : String, other.toList.head? ≠ some 'e' → other ∉ entries.map entryPath := by
    intro other hhead hmem
    obtain ⟨x, -, hx⟩ := List.mem_map.mp hmem
    exact entryPath_ne hhead hx
  have hmanifest : "manifest.json" ∉ "postgres.dump.age" :: entries.map entryPath :=
    List.not_mem_cons_of_ne_of_not_mem (by decide) (hother _ (by decide))
  rw [h.names, sortedPaths_perm.nodup_iff, backupPaths, List.cons_append, List.cons_append, List.nil_append,
    List.nodup_cons, List.nodup_cons, and_iff_right hmanifest, and_iff_right (hother _ (by decide)), hpaths,
    List.nodup_map_iff fun a b hab => (String.append_right_inj "evidence/").mp hab]

end Created

end Creation

end Caixinha.Effects.EnvelopeWriting
