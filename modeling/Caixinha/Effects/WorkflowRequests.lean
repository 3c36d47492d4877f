import Caixinha.Effects.WorkflowChanges

/-! What every request of the workflow amounts to when it succeeds, and the rule for whole runs. -/
namespace Caixinha.Effects.Workflow

open Caixinha.Library Caixinha.Library.Table Fallible Json Caixinha.Model Caixinha.Model.Workflow

variable {env : Env} {settings : Settings} {s s' : State} {clock : Instant} {task : Task} {actorId : Nat}

/-- What identifies the rows: no two tasks and no two orchestrations have one id. -/
structure Identified (s : State) : Prop where
  tasks : Keyed Task.id s.tasks
  orchestrations : Keyed Orchestration.id s.orchestrations
  taskOnce : (s.orchestrations.map Orchestration.taskId).Nodup

theorem epoch_inRange : Calendar.InstantInRange 0 := by decide

theorem orchestrationOf?_found (hkeyed : Keyed Orchestration.id s.orchestrations) {row : Orchestration}
    (h : orchestrationOf? s task.id = some row) :
    lookup Orchestration.id s.orchestrations row.id = some row ∧ row.taskId = task.id := by
  have hkind := List.find?_some h
  exact ⟨lookup_of_mem hkeyed (List.mem_of_find?_eq_some h), of_decide_eq_true hkind⟩

section Orchestration

theorem item_sla_status (task : Task) (now : Int) :
    item (enrichTaskSla task now) "sla_status" = .error (.keyError "sla_status") := rfl

theorem orchestrateTask_fails (s : State) (actor : Option Nat) (now : Int) (task : Task) :
    orchestrateTask actor now s task = .error (.keyError "sla_status") := by
  unfold orchestrateTask
  dsimp only
  rw [item_sla_status]
  rfl

/-- The dictionary of the terms has no status: the first task stops the loop. -/
theorem syncWorkflowOrchestration_eq (s : State) (actor : Option Nat) (now : Int) :
    syncWorkflowOrchestration s actor now =
      if s.tasks = [] then .ok s else .error (.keyError "sla_status") := by
  unfold syncWorkflowOrchestration
  cases s.tasks with
  | nil => rfl
  | cons t ts => rw [List.foldlM_cons, orchestrateTask_fails, if_neg (List.cons_ne_nil t ts)]; rfl

end Orchestration

section Execution

theorem accept_changes (hkeyed : Keyed Orchestration.id s.orchestrations) (hrow : s.task? task.id = some task)
    (h : accept s clock task actorId = .ok s') : Change env s s' := by
  unfold accept getOrch at h
  simp only [bind_eq_ok, pure_eq_ok, orFail_eq_ok, refuse_eq_ok, not_or, not_not, exists_and_left,
    exists_const] at h
  obtain ⟨row, hfound, ⟨hassigned, hassignee⟩, hwaiting, rfl⟩ := h
  obtain ⟨hlookup, htask⟩ := orchestrationOf?_found hkeyed hfound
  exact .accepted (htask ▸ hrow) hassigned hassignee hlookup hwaiting rfl

theorem start_changes (hkeyed : Keyed Orchestration.id s.orchestrations) (hrow : s.task? task.id = some task)
    (h : start env s clock task actorId = .ok s') : Change env s s' := by
  unfold start getOrch at h
  simp only [bind_eq_ok, pure_eq_ok, orFail_eq_ok, refuse_eq_ok, not_or, not_not, exists_and_left,
    exists_const, Prod.exists] at h
  obtain ⟨row, hfound, ⟨haccepted, hactor⟩, -, mid, moved, htransition, rfl⟩ := h
  obtain ⟨hlookup, htask⟩ := orchestrationOf?_found hkeyed hfound
  obtain ⟨event, hmove, hstatus, hmid⟩ := transition_spec hrow htransition
  have hto : event.toStatus = .IN_EXECUTION :=
    Option.some.inj (hstatus.symm.trans (by decide))
  rw [hmid]
  exact .started hmove hto hlookup htask haccepted hactor rfl

theorem complete_changes {note evidence : Option String} (hkeyed : Keyed Orchestration.id s.orchestrations)
    (hrow : s.task? task.id = some task) (h : complete env s clock task actorId note evidence = .ok s') :
    Change env s s' := by
  unfold complete getOrch at h
  simp only [bind_eq_ok, pure_eq_ok, orFail_eq_ok, refuse_eq_ok, not_or, not_not, exists_and_left,
    exists_const, Prod.exists] at h
  obtain ⟨row, hfound, ⟨hexecuting, hactor⟩, -, hready, -, mid, moved, htransition, rfl⟩ := h
  obtain ⟨hlookup, htask⟩ := orchestrationOf?_found hkeyed hfound
  obtain ⟨event, hmove, hstatus, hmid⟩ := transition_spec hrow htransition
  have hto : event.toStatus = .COMPLETED := Option.some.inj (hstatus.symm.trans (by decide))
  rw [hmid]
  exact .completed hmove hto hlookup htask hexecuting hactor hready rfl

private theorem syncExecutionState_changes {row : Orchestration} {actor : Option Nat} {now : Int}
    (hrow : lookup Orchestration.id s.orchestrations row.id = some row) :
    Relation.ReflTransGen (Change env) s (syncExecutionState actor now s row) ∧
      (syncExecutionState actor now s row).tasks = s.tasks ∧
      ∀ id, id ≠ row.id → lookup Orchestration.id (syncExecutionState actor now s row).orchestrations id =
        lookup Orchestration.id s.orchestrations id := by
  unfold syncExecutionState
  split
  · exact ⟨.refl, rfl, fun _ _ => rfl⟩
  · rename_i task htask
    dsimp only
    split
    · have hothers : ∀ id, id ≠ row.id → lookup Orchestration.id (replace Orchestration.id s.orchestrations
          { row with executionState := targetState task row, updatedAt := now }) id =
          lookup Orchestration.id s.orchestrations id := fun _ hne => lookup_replace_ne hne
      cases actor with
      | none => exact ⟨.single (.synced hrow htask rfl), rfl, hothers⟩
      | some actor => exact ⟨.single (.synced hrow htask rfl), rfl, hothers⟩
    · exact ⟨.refl, rfl, fun _ _ => rfl⟩

theorem syncExecutionStates_changes {actor : Option Nat} {now : Int}
    (hkeyed : Keyed Orchestration.id s.orchestrations) :
    Relation.ReflTransGen (Change env) s (syncExecutionStates s actor now) := by
  suffices hfold : ∀ (rows : List Orchestration) (s : State), (rows.map Orchestration.id).Nodup →
      (∀ row ∈ rows, lookup Orchestration.id s.orchestrations row.id = some row) →
      Relation.ReflTransGen (Change env) s (rows.foldl (syncExecutionState actor now) s) from
    hfold s.orchestrations s hkeyed fun row hrow => lookup_of_mem hkeyed hrow
  intro rows
  induction rows with
  | nil => exact fun s _ _ => .refl
  | cons row rows ih =>
    intro s hnodup hrows
    rw [List.map_cons, List.nodup_cons] at hnodup
    obtain ⟨hchanges, -, hothers⟩ := @syncExecutionState_changes env s row actor now
      (hrows row (List.mem_cons_self ..))
    refine hchanges.trans (ih _ hnodup.2 fun r hr => ?_)
    have hne : r.id ≠ row.id := fun he => hnodup.1 (he ▸ List.mem_map_of_mem hr)
    rw [hothers r.id hne]
    exact hrows r (List.mem_cons_of_mem _ hr)

end Execution

section Evidence

theorem addEvidence_changes {evidenceType content : String} {title : Option String}
    (h : addEvidence env s clock task actorId evidenceType content title = .ok s') : Change env s s' := by
  unfold addEvidence at h
  simp only [bind_eq_ok, pure_eq_ok, refuse_eq_ok, not_not, exists_and_left, exists_const] at h
  obtain ⟨hexecuting, -, -, rfl⟩ := h
  exact .evidenceAdded hexecuting rfl rfl

theorem addChecklistItem_changes {label : String} {required : Bool}
    (h : addChecklistItem s clock task actorId label required = .ok s') : Change env s s' := by
  unfold addChecklistItem at h
  simp only [bind_eq_ok, pure_eq_ok, refuse_eq_ok, not_not, exists_and_left, exists_const] at h
  obtain ⟨hexecuting, -, rfl⟩ := h
  exact .itemAdded hexecuting rfl rfl rfl

theorem completeChecklistItem_changes {row : ChecklistItem}
    (hrow : lookup ChecklistItem.id s.checklist row.id = some row)
    (h : completeChecklistItem s clock row actorId = .ok s') :
    Relation.ReflTransGen (Change env) s s' := by
  unfold completeChecklistItem at h
  simp only [bind_eq_ok, refuse_eq_ok, not_not, exists_and_left, exists_const] at h
  obtain ⟨hexecuting, h⟩ := h
  split at h
  · rw [pure_eq_ok] at h
    exact h ▸ .refl
  · rw [pure_eq_ok] at h
    subst h
    exact .single (.itemCompleted hrow hexecuting rfl)

theorem uploadFile_changes {evidence : Evidence} {upload : Upload} {hex : String} {file : EvidenceFile}
    (hevidence : lookup Evidence.id s.evidences evidence.id = some evidence)
    (h : uploadFile settings s clock task evidence actorId upload hex = .ok (s', file)) :
    Change env s s' := by
  unfold uploadFile at h
  simp only [bind_eq_ok, pure_eq_ok, refuse_eq_ok, requireUnique_eq_ok, not_not, exists_and_left,
    exists_const, Prod.exists, Prod.mk.injEq] at h
  obtain ⟨hexecuting, htask, -, name, ctype, -, -, -, -, rfl, rfl⟩ := h
  exact .fileAdded hevidence (htask ▸ hexecuting) rfl rfl rfl

end Evidence

section Integrity
variable {disk : String → Act (Option String)} {file : EvidenceFile} {e : IntegrityEvent} {fileId : Nat}
  {actor : Option Nat}

/-- A verification appends one event that names the last hash and carries its own. -/
structure Recorded (env : Env) (s s' : State) (e : IntegrityEvent) : Prop where
  fresh : e.id = nextKey IntegrityEvent.id s.integrityEvents
  previous : e.previousEventHash = lastHash s
  hash : e.eventHash = calculatedHash env e
  only : s' = { s with integrityEvents := s.integrityEvents ++ [e] }

theorem record_spec {status : String} {observed details : Option String}
    (h : record env s clock file status observed actor details = .ok (s', e)) : Recorded env s s' e := by
  unfold record at h
  simp only [bind_eq_ok, pure_eq_ok, orFail_eq_ok, Prod.mk.injEq] at h
  obtain ⟨evidence, -, rfl, rfl⟩ := h
  exact ⟨rfl, rfl, rfl, rfl⟩

theorem verifyFile_spec (h : verifyFile env disk s clock fileId actor = .ok (s', e)) :
    Recorded env s s' e := by
  unfold verifyFile at h
  simp only [bind_eq_ok, orFail_eq_ok] at h
  obtain ⟨row, -, h⟩ := h
  split at h
  · exact record_spec h
  · rw [bind_eq_ok] at h
    obtain ⟨found, -, h⟩ := h
    split at h
    · exact record_spec h
    · split at h <;> exact record_spec h

theorem Recorded.change (h : Recorded env s s' e) : Change env s s' :=
  .verified h.fresh h.previous h.hash h.only

/-- A loop of verifications keeps what one of them keeps. -/
theorem verifyAll_keeps {events : List IntegrityEvent} {P : State → Prop}
    (hstep : ∀ x y e, Recorded env x y e → P x → P y) (hs : P s)
    (h : verifyAll env disk s clock actor = .ok (s', events)) : P s' := by
  unfold verifyAll at h
  refine foldlM_invariant (fun acc => P acc.1) (fun acc row next hacc hnext => ?_) hs h
  simp only [bind_eq_ok, pure_eq_ok, Prod.exists] at hnext
  obtain ⟨mid, e, hverify, rfl⟩ := hnext
  exact hstep acc.1 mid e (verifyFile_spec hverify) hacc

end Integrity

section Requests

theorem Change.identified (h : Identified s) (hchange : Change env s s') : Identified s' := by
  have hput : ∀ moved, Keyed Task.id (replace Task.id s.tasks moved) := fun _ => keyed_replace h.tasks
  have horch : ∀ row', Keyed Orchestration.id (replace Orchestration.id s.orchestrations row') :=
    fun _ => keyed_replace h.orchestrations
  have honce : ∀ row row' : Orchestration, lookup Orchestration.id s.orchestrations row.id = some row →
      row'.id = row.id → row'.taskId = row.taskId →
      ((replace Orchestration.id s.orchestrations row').map Orchestration.taskId).Nodup := by
    intro row row' hfound hid htask
    rw [map_replace Orchestration.taskId h.orchestrations (hid ▸ hfound) htask]
    exact h.taskOnce
  cases hchange with
  | verified _ _ _ only => exact only ▸ ⟨h.tasks, h.orchestrations, h.taskOnce⟩
  | created fresh _ _ only => exact only ▸ ⟨keyed_append h.tasks fresh, h.orchestrations, h.taskOnce⟩
  | termed _ only => exact only ▸ ⟨hput _, h.orchestrations, h.taskOnce⟩
  | raised _ _ _ only => exact only ▸ ⟨hput _, h.orchestrations, h.taskOnce⟩
  | opened _ _ _ only => exact only ▸ ⟨h.tasks, h.orchestrations, h.taskOnce⟩
  | actionRaised _ _ _ only => exact only ▸ ⟨h.tasks, h.orchestrations, h.taskOnce⟩
  | acknowledged _ only => exact only ▸ ⟨h.tasks, h.orchestrations, h.taskOnce⟩
  | moved _ only => exact only ▸ ⟨hput _, h.orchestrations, h.taskOnce⟩
  | @accepted _ row actorId now _ _ _ found _ only =>
    exact only ▸ ⟨h.tasks, horch _, honce row (acceptedRow row actorId now) found rfl rfl⟩
  | @started _ _ _ row actorId now _ _ found _ _ _ only =>
    exact only ▸ ⟨hput _, horch _, honce row (startedRow row actorId now) found rfl rfl⟩
  | @completed _ _ _ row actorId now _ _ found _ _ _ _ only =>
    exact only ▸ ⟨hput _, horch _, honce row (completedRow row actorId now) found rfl rfl⟩
  | @synced task row now found _ only =>
    exact only ▸ ⟨h.tasks, horch _, honce row (syncedRow row now task) found rfl rfl⟩
  | evidenceAdded _ _ only => exact only ▸ ⟨h.tasks, h.orchestrations, h.taskOnce⟩
  | itemAdded _ _ _ only => exact only ▸ ⟨h.tasks, h.orchestrations, h.taskOnce⟩
  | itemCompleted _ _ only => exact only ▸ ⟨h.tasks, h.orchestrations, h.taskOnce⟩
  | fileAdded _ _ _ _ only => exact only ▸ ⟨h.tasks, h.orchestrations, h.taskOnce⟩

private theorem createTask_changes {actionCode priority : String} {assignedTo : Option Nat}
    {dueAt : Option Int} {description : Option String}
    (h : createTask s clock actionCode actorId priority assignedTo dueAt description = .ok (s', task)) :
    Change env s s' := by
  unfold createTask at h
  simp only [bind_eq_ok, pure_eq_ok, Prod.mk.injEq] at h
  obtain ⟨priority, -, rfl, rfl⟩ := h
  exact .created rfl rfl rfl rfl

private theorem acknowledge_changes {code : String} {note : Option String} {snapshotId : Option Nat}
    (h : acknowledge s clock code actorId note snapshotId = .ok s') : Change env s s' := by
  unfold acknowledge at h
  simp only [bind_eq_ok, pure_eq_ok] at h
  obtain ⟨-, -, rfl⟩ := h
  exact .acknowledged rfl rfl

private theorem taskOr404_found {taskId : Nat} (h : taskOr404 s taskId = .ok task) :
    s.task? task.id = some task := by
  rw [taskOr404, orFail_eq_ok] at h
  have hid : task.id = taskId := lookup_key h
  rw [hid]
  exact h

/-- Every request that succeeds is a sequence of changes. -/
theorem attempt_changes {call : Call} (hid : Identified s)
    (h : Workflow.attempt env settings s clock call = .ok s') : Relation.ReflTransGen (Change env) s s' := by
  cases call with
  | createTask actorId actionCode priority assignedTo dueAt description =>
    obtain ⟨⟨final, task⟩, hcreate, rfl⟩ := map_eq_ok.mp h
    exact .single (createTask_changes hcreate)
  | transition taskId actorId status note evidence assignedTo =>
    obtain ⟨task, htask, h⟩ := bind_eq_ok.mp h
    obtain ⟨⟨final, moved⟩, htransition, rfl⟩ := map_eq_ok.mp h
    obtain ⟨event, hmove, -, honly⟩ := transition_spec (taskOr404_found htask) htransition
    exact .single (.moved hmove honly)
  | slaSummary actorId =>
    obtain rfl := Except.ok.inj h
    exact slaSummary_changes hid.tasks
  | slaTasks actorId limit =>
    obtain rfl := Except.ok.inj h
    exact slaTasks_changes hid.tasks
  | syncEscalations actorId =>
    obtain rfl := Except.ok.inj h
    exact syncWorkflowEscalations_changes hid.tasks
  | syncOrchestration actorId =>
    rw [Workflow.attempt, syncWorkflowOrchestration_eq] at h
    split at h
    · obtain rfl := Except.ok.inj h
      exact .refl
    · cases h
  | syncExecution actorId =>
    obtain rfl := Except.ok.inj h
    exact syncExecutionStates_changes hid.orchestrations
  | accept taskId actorId =>
    obtain ⟨task, htask, h⟩ := bind_eq_ok.mp h
    exact .single (accept_changes hid.orchestrations (taskOr404_found htask) h)
  | start taskId actorId =>
    obtain ⟨task, htask, h⟩ := bind_eq_ok.mp h
    exact .single (start_changes hid.orchestrations (taskOr404_found htask) h)
  | complete taskId actorId note evidence =>
    obtain ⟨task, htask, h⟩ := bind_eq_ok.mp h
    exact .single (complete_changes hid.orchestrations (taskOr404_found htask) h)
  | addEvidence taskId actorId evidenceType content title =>
    obtain ⟨task, htask, h⟩ := bind_eq_ok.mp h
    exact .single (addEvidence_changes h)
  | addChecklistItem taskId actorId label required =>
    obtain ⟨task, htask, h⟩ := bind_eq_ok.mp h
    exact .single (addChecklistItem_changes h)
  | completeChecklistItem itemId actorId =>
    obtain ⟨row, hrow, h⟩ := bind_eq_ok.mp h
    rw [orFail_eq_ok] at hrow
    have hkey : row.id = itemId := lookup_key hrow
    exact completeChecklistItem_changes (hkey ▸ hrow) h
  | upload taskId evidenceId actorId file hex =>
    obtain ⟨task, htask, h⟩ := bind_eq_ok.mp h
    obtain ⟨evidence, hevidence, h⟩ := bind_eq_ok.mp h
    rw [orFail_eq_ok] at hevidence
    have hkey : evidence.id = evidenceId := lookup_key hevidence
    obtain ⟨⟨final, row⟩, hupload, rfl⟩ := map_eq_ok.mp h
    exact .single (uploadFile_changes (hkey ▸ hevidence) hupload)
  | verifyFile fileId actorId disk =>
    obtain ⟨⟨final, e⟩, hverify, rfl⟩ := map_eq_ok.mp h
    exact .single (verifyFile_spec hverify).change
  | verifyAll actorId disk =>
    obtain ⟨⟨final, events⟩, hverify, rfl⟩ := map_eq_ok.mp h
    exact verifyAll_keeps (fun x y e hrecorded hx => hx.tail hrecorded.change) .refl hverify
  | acknowledge actorId code note snapshotId => exact .single (acknowledge_changes h)

/-- What every change keeps holds after any requests. -/
theorem run_keeps {P : State → Prop} (hchange : ∀ x y, Identified x → P x → Change env x y → P y)
    (hid : Identified s) (h : P s) (calls : List (Instant × Call)) :
    Identified (run env settings s calls) ∧ P (run env settings s calls) := by
  have hchanges : ∀ x y, Relation.ReflTransGen (Change env) x y → Identified x ∧ P x → Identified y ∧ P y := by
    intro x y hxy hx
    induction hxy with
    | refl => exact hx
    | tail _ hlast ih => exact ⟨hlast.identified ih.1, hchange _ _ ih.1 ih.2 hlast⟩
  induction calls generalizing s with
  | nil => exact ⟨hid, h⟩
  | cons call calls ih =>
    have hkept : Identified (Workflow.execute env settings s call) ∧ P (Workflow.execute env settings s call) := by
      unfold Workflow.execute
      cases hcall : Workflow.attempt env settings s call.1 call.2 with
      | error failure => exact ⟨hid, h⟩
      | ok s' => exact hchanges _ _ (attempt_changes hid hcall) ⟨hid, h⟩
    exact ih hkept.1 hkept.2

end Requests

end Caixinha.Effects.Workflow
