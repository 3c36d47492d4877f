import Caixinha.Effects.WorkflowRequests

/-! The escalation of overdue tasks: it finds every one of them, opens one action for each, and never raises
anything it opened. -/
namespace Caixinha.Properties.WorkflowEscalation

open Caixinha.Library Caixinha.Library.Table Caixinha.Model Caixinha.Model.Workflow Caixinha.Effects.Workflow

variable {env : Env} {settings : Settings} {s s' : State} {task moved : Task} {event : Event}
  {actorId : Option Nat} {now : Int}

def isOpenFor (id : Nat) (a : ActionRecord) : Bool := a.sourceTaskId = some id ∧ a.status = .OPEN

/-- An overdue task has at least the level of its priority, and its open action, of which it has one at
most, has exactly that level. -/
structure Escalated (s : State) : Prop where
  marked : ∀ task ∈ s.tasks, task.slaStatus = .OVERDUE → task.priority.level.rank ≤ task.escalationLevel.rank
  matched : ∀ a ∈ s.actions, a.status = .OPEN →
    ∃ task ∈ s.tasks, a.sourceTaskId = some task.id ∧ a.escalationLevel = task.priority.level
  once : ∀ id, (s.actions.filter (isOpenFor id)).length ≤ 1

section Step

private theorem openAction?_found {id : Nat} {action : ActionRecord} (h : openAction? s id = some action) :
    action ∈ s.actions ∧ isOpenFor id action = true :=
  ⟨List.mem_reverse.mp (List.mem_of_find?_eq_some h), List.find?_some h⟩

private theorem openAction?_none {id : Nat} (h : openAction? s id = none) :
    s.actions.filter (isOpenFor id) = [] := by
  refine List.filter_eq_nil_iff.mpr fun a ha => ?_
  exact List.find?_eq_none.mp h a (List.mem_reverse.mpr ha)

/-- Changes that leave the actions as they are and every task of the same priority in its place. -/
private theorem Escalated.tasks (h : Escalated s) (hactions : s'.actions = s.actions)
    (hmarked : ∀ task ∈ s'.tasks, task.slaStatus = .OVERDUE →
      task.priority.level.rank ≤ task.escalationLevel.rank)
    (hkept : ∀ task ∈ s.tasks, ∃ later ∈ s'.tasks, later.id = task.id ∧ later.priority = task.priority) :
    Escalated s' := by
  refine ⟨hmarked, ?_, hactions ▸ h.once⟩
  rw [hactions]
  intro a ha hopen
  obtain ⟨task, htask, hsource, hlevel⟩ := h.matched a ha hopen
  obtain ⟨later, hlater, hid, hpriority⟩ := hkept task htask
  exact ⟨later, hlater, hid ▸ hsource, hpriority ▸ hlevel⟩

private theorem Escalated.same (h : Escalated s) (htasks : s'.tasks = s.tasks)
    (hactions : s'.actions = s.actions) : Escalated s' :=
  h.tasks hactions (htasks ▸ h.marked) (htasks ▸ fun task htask => ⟨task, htask, rfl, rfl⟩)

private theorem Escalated.replaced (h : Escalated s) (hid : Identified s)
    (hrow : s.task? task.id = some task) (hkey : moved.id = task.id) (hpriority : moved.priority = task.priority)
    (hmarked : moved.slaStatus = .OVERDUE → moved.priority.level.rank ≤ moved.escalationLevel.rank)
    (htasks : s'.tasks = replace Task.id s.tasks moved) (hactions : s'.actions = s.actions) :
    Escalated s' := by
  refine h.tasks hactions ?_ fun x hx => ?_
  · rw [htasks]
    exact forall_mem_replace h.marked hmarked
  · rw [htasks]
    by_cases hsame : x.id = moved.id
    · obtain rfl := eq_of_mem_of_key hid.tasks hx (lookup_mem hrow) (hsame.trans hkey)
      exact ⟨moved, mem_replace_self (hkey ▸ hrow), hkey, hpriority⟩
    · exact ⟨x, List.mem_map.mpr ⟨x, hx, if_neg hsame⟩, rfl, rfl⟩

private theorem Escalated.move (h : Escalated s) (hid : Identified s) (hmove : Move env s task moved event)
    (htasks : s'.tasks = replace Task.id s.tasks moved) (hactions : s'.actions = s.actions) :
    Escalated s' := by
  obtain ⟨hstatus, hlevel, hpriority⟩ := hmove.terms
  refine h.replaced hid hmove.row hmove.id_eq hpriority (fun hlate => ?_) htasks hactions
  rw [hpriority, hlevel]
  exact h.marked task (lookup_mem hmove.row) (hstatus ▸ hlate)

/-- What the terms mark as overdue gets the level of its priority at least. -/
private theorem level_le_slaLevel (h : task.overdue now = true) :
    task.priority.level.rank ≤ (task.slaLevel now).rank := by
  unfold Task.slaLevel
  cases hpriority : task.priority <;> simp [h, Priority.level, Level.rank]

theorem applySla_marked (hmarked : task.slaStatus = .OVERDUE →
      task.priority.level.rank ≤ task.escalationLevel.rank) (hlate : (applySla task now).slaStatus = .OVERDUE) :
    (applySla task now).priority.level.rank ≤ (applySla task now).escalationLevel.rank := by
  unfold applySla at hlate ⊢
  split
  · rename_i hbecomes
    exact level_le_slaLevel (of_decide_eq_true hbecomes).1
  · rename_i hnot
    rw [if_neg hnot] at hlate
    split
    · rename_i hcompleted
      rw [if_pos hcompleted] at hlate
      cases hlate
    · rename_i hopen
      rw [if_neg hopen] at hlate
      exact hmarked hlate

private theorem Escalated.opened (h : Escalated s) (hrow : s.task? task.id = some task)
    (hnone : openAction? s task.id = none) (htasks : s'.tasks = s.tasks)
    (hactions : s'.actions = s.actions ++ [newAction s task task.priority.level now]) : Escalated s' := by
  refine ⟨htasks ▸ h.marked, ?_, fun id => ?_⟩
  · rw [htasks, hactions]
    intro a ha hopen
    rcases List.mem_append.mp ha with ha | ha
    · exact h.matched a ha hopen
    · rw [List.mem_singleton.mp ha]
      exact ⟨task, lookup_mem hrow, rfl, rfl⟩
  · rw [hactions, List.filter_append, List.length_append]
    by_cases hid : id = task.id
    · rw [hid, openAction?_none hnone, List.length_nil, Nat.zero_add]
      exact List.length_filter_le _ _
    · have hother : ¬ isOpenFor id (newAction s task task.priority.level now) = true := by
        simpa [isOpenFor, newAction] using fun he : task.id = id => absurd he.symm hid
      rw [List.filter_cons_of_neg hother]
      exact h.once id

private theorem Escalated.acknowledged (h : Escalated s) {action : ActionRecord}
    (hclosed : action.status = .ACKNOWLEDGED) (htasks : s'.tasks = s.tasks)
    (hactions : s'.actions = s.actions ++ [action]) : Escalated s' := by
  refine ⟨htasks ▸ h.marked, ?_, fun id => ?_⟩
  · rw [htasks, hactions]
    intro a ha hopen
    rcases List.mem_append.mp ha with ha | ha
    · exact h.matched a ha hopen
    · rw [List.mem_singleton.mp ha, hclosed] at hopen
      cases hopen
  · have hother : ¬ isOpenFor id action = true := by simp [isOpenFor, hclosed]
    rw [hactions, List.filter_append, List.length_append, List.filter_cons_of_neg hother]
    exact h.once id

/-- The open action of a task never has a level below that of the task. -/
theorem Escalated.level_of_open (h : Escalated s) (hid : Identified s) (hrow : task ∈ s.tasks)
    {action : ActionRecord} (hfound : openAction? s task.id = some action) :
    action.escalationLevel = task.priority.level := by
  obtain ⟨hmem, hopen⟩ := openAction?_found hfound
  obtain ⟨hsource, hstatus⟩ := of_decide_eq_true hopen
  obtain ⟨owner, howner, howned, hlevel⟩ := h.matched action hmem hstatus
  have hkey : owner.id = task.id := Option.some.inj (howned.symm.trans hsource)
  obtain rfl := eq_of_mem_of_key hid.tasks howner hrow hkey
  exact hlevel

private theorem Escalated.created (h : Escalated s) (honTrack : task.slaStatus = .ON_TRACK)
    (htasks : s'.tasks = s.tasks ++ [task]) (hactions : s'.actions = s.actions) : Escalated s' := by
  refine h.tasks hactions ?_ fun x hx => ?_
  · rw [htasks]
    intro x hx hlate
    rcases List.mem_append.mp hx with hx | hx
    · exact h.marked x hx hlate
    · rw [List.mem_singleton.mp hx, honTrack] at hlate
      cases hlate
  · rw [htasks]
    exact ⟨x, List.mem_append_left _ hx, rfl, rfl⟩

theorem escalated_change (h : Escalated s) (hid : Identified s) (hchange : Change env s s') :
    Escalated s' ∧ s.actions <+: s'.actions := by
  have hsame : s'.tasks = s.tasks → s'.actions = s.actions → Escalated s' ∧ s.actions <+: s'.actions :=
    fun htasks hactions => ⟨h.same htasks hactions, hactions ▸ List.prefix_rfl⟩
  have hmove : ∀ {task moved event}, Move env s task moved event → s'.tasks = replace Task.id s.tasks moved →
      s'.actions = s.actions → Escalated s' ∧ s.actions <+: s'.actions :=
    fun move htasks hactions => ⟨h.move hid move htasks hactions, hactions ▸ List.prefix_rfl⟩
  cases hchange with
  | verified _ _ _ only => exact hsame (by rw [only]) (by rw [only])
  | created _ _ onTrack only =>
    have hactions : s'.actions = s.actions := by rw [only]
    exact ⟨h.created onTrack (by rw [only]) hactions, hactions ▸ List.prefix_rfl⟩
  | @termed task now row only =>
    have hkept := applySla_kept task now
    have hactions : s'.actions = s.actions := by rw [only]
    have hmarked := @applySla_marked task now (h.marked task (lookup_mem row))
    exact ⟨h.replaced hid row hkept.id_eq hkept.priority hmarked (by rw [only]) hactions,
      hactions ▸ List.prefix_rfl⟩
  | raised row late raises only => exact absurd raises (Nat.not_lt.mpr (h.marked _ (lookup_mem row) late))
  | opened row _ none only =>
    refine ⟨h.opened row none (by rw [only]) (by rw [only]), ?_⟩
    rw [only]
    exact List.prefix_append _ _
  | actionRaised row found raises only =>
    rw [h.level_of_open hid (lookup_mem row) found] at raises
    exact absurd raises (Nat.lt_irrefl _)
  | acknowledged closed only =>
    refine ⟨h.acknowledged closed (by rw [only]) (by rw [only]), ?_⟩
    rw [only]
    exact List.prefix_append _ _
  | moved move only => exact hmove move (by rw [only]) (by rw [only])
  | accepted _ _ _ _ _ only => exact hsame (by rw [only]) (by rw [only])
  | started move _ _ _ _ _ only => exact hmove move (by rw [only]) (by rw [only])
  | completed move _ _ _ _ _ _ only => exact hmove move (by rw [only]) (by rw [only])
  | synced _ _ only => exact hsame (by rw [only]) (by rw [only])
  | evidenceAdded _ _ only => exact hsame (by rw [only]) (by rw [only])
  | itemAdded _ _ _ only => exact hsame (by rw [only]) (by rw [only])
  | itemCompleted _ _ only => exact hsame (by rw [only]) (by rw [only])
  | fileAdded _ _ _ _ only => exact hsame (by rw [only]) (by rw [only])

theorem escalated_changes (hid : Identified s) (h : Escalated s)
    (hchanges : Relation.ReflTransGen (Change env) s s') :
    Identified s' ∧ Escalated s' ∧ s.actions <+: s'.actions := by
  induction hchanges with
  | refl => exact ⟨hid, h, List.prefix_rfl⟩
  | tail _ hchange ih =>
    obtain ⟨hid, h, hprefix⟩ := ih
    obtain ⟨h', hstep⟩ := escalated_change h hid hchange
    exact ⟨hchange.identified hid, h', hprefix.trans hstep⟩

end Step

section Sweep

/-- A sweep that updated no action and raised no task. -/
structure Quiet (report : Escalations) : Prop where
  updated : report.updated = 0
  unchanged : ∀ item ∈ report.items, item.changed = false

/-- The sweep of this instant has nothing left to do for the task. -/
def Settled (now : Int) (s : State) (id : Nat) : Prop :=
  ∀ task, s.task? id = some task → task.status ≠ .COMPLETED →
    applySla task now = task ∧ (escalationLevel task now ≠ .NONE → (openAction? s id).isSome)

theorem applySla_applySla (task : Task) (now : Int) : applySla (applySla task now) now = applySla task now := by
  by_cases hbecomes : task.becomesOverdue now = true
  · have hlate : (applySla task now).slaStatus = .OVERDUE := applySla_late (of_decide_eq_true hbecomes).1
    have hopen : (applySla task now).status ≠ .COMPLETED :=
      (applySla_kept task now).status ▸ (of_decide_eq_true hbecomes).2.1
    rw [applySla, if_neg (fun h => (of_decide_eq_true h).2.2 hlate), if_neg hopen]
  · by_cases hcompleted : task.status = .COMPLETED
    · have hnot : ¬ ({ task with slaStatus := .COMPLETED } : Task).becomesOverdue now = true :=
        fun h => (of_decide_eq_true h).2.1 hcompleted
      have honce : applySla task now = { task with slaStatus := .COMPLETED } := by
        rw [applySla, if_neg hbecomes, if_pos hcompleted]
      rw [honce, applySla, if_neg hnot, if_pos hcompleted]
    · have honce : applySla task now = task := by rw [applySla, if_neg hbecomes, if_neg hcompleted]
      rw [honce, honce]

private theorem raiseTask_quiet (h : Escalated s) (htask : task ∈ s.tasks) (hlate : task.slaStatus = .OVERDUE) :
    raises task task.priority.level = false ∧ raiseTask s task task.priority.level actorId now = s := by
  have hnot : raises task task.priority.level = false :=
    decide_eq_false (Nat.not_lt.mpr (h.marked task htask hlate))
  exact ⟨hnot, by rw [raiseTask, hnot]; rfl⟩

private theorem raiseAction_quiet (h : Escalated s) (hid : Identified s) (htask : task ∈ s.tasks)
    {report : Escalations} :
    let turn := raiseAction s task task.priority.level actorId now report
    turn.2.1.updated = report.updated ∧ turn.2.1.items = report.items ∧ turn.1.tasks = s.tasks ∧
      (openAction? turn.1 task.id).isSome := by
  intro turn
  cases hfound : openAction? s task.id with
  | none =>
    have hturn : turn = (({ s with actions := s.actions ++ [newAction s task task.priority.level now] }).audit
        [{ actorUserId := actorId, action := "WORKFLOW_ESCALATION_ACTION_CREATED"
           entityType := "OperationalActionRecord", entityId := toString task.id
           details := escalationNote task task.priority.level }],
        { report with created := report.created + 1 }, none) := by
      simp only [turn, raiseAction, hfound]
    refine hturn ▸ ⟨rfl, rfl, rfl, ?_⟩
    refine List.find?_isSome.mpr ⟨newAction s task task.priority.level now, ?_, by simp [newAction]⟩
    exact List.mem_reverse.mpr (List.mem_append_right _ (List.mem_singleton_self _))
  | some action =>
    have hlevel := h.level_of_open hid htask hfound
    have hturn : turn = (s, report, some action.id) := by
      simp only [turn, raiseAction, hfound, hlevel, Nat.lt_irrefl, if_false]
    refine hturn ▸ ⟨rfl, rfl, rfl, ?_⟩
    rw [hfound]
    rfl

/-- A turn of the sweep settles its own task, whether or not the task is escalated. -/
private theorem turn_settles (env : Env) {acc : State × Escalations} (hid : Identified acc.1)
    (h : Escalated acc.1) (hquiet : Quiet acc.2) (hrow : acc.1.task? task.id = some task) :
    Quiet (escalateTask actorId now acc task).2 ∧ Settled now (escalateTask actorId now acc task).1 task.id := by
  have htermed : Change env acc.1 (applySlaTo acc.1 task actorId now).1 := applySlaTo_change hrow
  have hself : (applySlaTo acc.1 task actorId now).1.task? task.id = some (applySla task now) :=
    applySlaTo_self hrow
  have hmid := (escalated_change h hid htermed).1
  have hmem := lookup_mem hself
  have hkey := (applySla_kept task now).id_eq
  by_cases hnone : escalationLevel (applySla task now) now = .NONE
  · rw [escalateTask_none hnone]
    refine ⟨hquiet, fun stored hstored _ => ?_⟩
    obtain rfl := Option.some.inj (hself.symm.trans hstored)
    exact ⟨applySla_applySla task now, fun hsome => absurd hnone hsome⟩
  · obtain ⟨hpriority, hlate⟩ := escalationLevel_eq hnone
    rw [overdue_applySla] at hlate
    rw [hpriority] at hnone
    obtain ⟨hunchanged, hsame⟩ := @raiseTask_quiet _ _ actorId now hmid hmem (applySla_late hlate)
    rw [escalateTask_escalated hpriority hnone, escalation, hsame, hunchanged]
    obtain ⟨hupdated, hitems, htasks, hopen⟩ :=
      @raiseAction_quiet _ _ actorId now hmid (htermed.identified hid) hmem acc.2
    refine ⟨⟨hupdated.trans hquiet.updated, ?_⟩, fun stored hstored _ => ?_⟩
    · rw [hitems]
      exact List.forall_mem_append.mpr ⟨hquiet.unchanged, List.forall_mem_singleton.mpr rfl⟩
    · rw [State.task?, htasks] at hstored
      obtain rfl := Option.some.inj (hself.symm.trans hstored)
      exact ⟨applySla_applySla task now, fun _ => hkey ▸ hopen⟩

/-- What is settled stays settled while the other tasks have their turns. -/
private theorem Settled.later {id : Nat} (h : Settled now s id) (htask : s'.task? id = s.task? id)
    (hactions : s.actions <+: s'.actions) : Settled now s' id := by
  intro task hrow hopen
  obtain ⟨hterms, hsome⟩ := h task (htask ▸ hrow) hopen
  refine ⟨hterms, fun hlevel => ?_⟩
  obtain ⟨a, ha, hopen⟩ := List.find?_isSome.mp (hsome hlevel)
  exact List.find?_isSome.mpr ⟨a, List.mem_reverse.mpr (hactions.subset (List.mem_reverse.mp ha)), hopen⟩

private theorem sweep_settles (env : Env) {ts : List Task} {acc : State × Escalations}
    (hnodup : (ts.map Task.id).Nodup) (hrows : ∀ t ∈ ts, acc.1.task? t.id = some t)
    (hid : Identified acc.1) (h : Escalated acc.1) (hquiet : Quiet acc.2) :
    let swept := ts.foldl (escalateTask actorId now) acc
    Quiet swept.2 ∧ ∀ id, Settled now acc.1 id ∨ id ∈ ts.map Task.id → Settled now swept.1 id := by
  induction ts generalizing acc with
  | nil => exact ⟨hquiet, fun id hsettled => hsettled.resolve_right List.not_mem_nil⟩
  | cons t ts ih =>
    rw [List.map_cons, List.nodup_cons] at hnodup
    have hrow := hrows t (List.mem_cons_self ..)
    obtain ⟨hchanges, hothers⟩ := @escalateTask_changes env t actorId now acc hrow
    obtain ⟨hid', h', hprefix⟩ := escalated_changes hid h hchanges
    obtain ⟨hquiet', hown⟩ := @turn_settles t actorId now env acc hid h hquiet hrow
    have hrows' : ∀ u ∈ ts, (escalateTask actorId now acc t).1.task? u.id = some u := by
      intro u hu
      have hne : u.id ≠ t.id := fun he => hnodup.1 (he ▸ List.mem_map_of_mem hu)
      exact (hothers u.id hne).trans (hrows u (List.mem_cons_of_mem _ hu))
    obtain ⟨hfinal, hsettled⟩ := ih hnodup.2 hrows' hid' h' hquiet'
    refine ⟨hfinal, fun id hone => hsettled id ?_⟩
    by_cases hne : id = t.id
    · exact .inl (hne ▸ hown)
    · rcases hone with hdone | hin
      · exact .inl (hdone.later (hothers id hne) hprefix)
      · exact .inr ((List.mem_cons.mp (List.map_cons ▸ hin)).resolve_left hne)

private theorem applySlaTo_settled (hid : Identified s) (htask : task ∈ s.tasks)
    (hterms : applySla task now = task) : (applySlaTo s task actorId now).1 = s := by
  have hnot : ¬ task.becomesOverdue now = true := by
    intro hbecomes
    have hlate : (applySla task now).slaStatus = .OVERDUE := applySla_late (of_decide_eq_true hbecomes).1
    exact (of_decide_eq_true hbecomes).2.2 (hterms ▸ hlate)
  have haudit : slaAudit task actorId now = [] := if_neg fun h => hnot h.1
  have hput : s.putTask task = s := by
    rw [State.putTask, replace_self hid.tasks (lookup_of_mem hid.tasks htask)]
  rw [applySlaTo, hterms, haudit, hput, State.audit, List.append_nil]

private theorem settled_turn (h : Escalated s) (hid : Identified s) (htask : task ∈ openTasks s)
    (hsettled : Settled now s task.id) (report : Escalations) :
    (escalateTask actorId now (s, report) task).1 = s ∧
      (escalateTask actorId now (s, report) task).2.created = report.created := by
  obtain ⟨hmem, hopen⟩ := List.mem_filter.mp htask
  have hopen := of_decide_eq_true hopen
  obtain ⟨hterms, hsome⟩ := hsettled task (lookup_of_mem hid.tasks hmem) hopen
  have hsame := @applySlaTo_settled s task actorId now hid hmem hterms
  by_cases hnone : escalationLevel task now = .NONE
  · rw [escalateTask_none (hterms.symm ▸ hnone)]
    exact ⟨hsame, rfl⟩
  · obtain ⟨hpriority, hlate⟩ := escalationLevel_eq hnone
    obtain ⟨action, hfound⟩ := Option.isSome_iff_exists.mp (hsome hnone)
    have hmarked : task.slaStatus = .OVERDUE := hterms ▸ applySla_late hlate
    have hlevel := h.level_of_open hid hmem hfound
    have hturn : escalation (s, report) task task.priority.level actorId now = (s, report, some action.id) := by
      rw [escalation, hterms, hsame, (raiseTask_quiet h hmem hmarked).2]
      simp only [raiseAction, hfound, hlevel, Nat.lt_irrefl, if_false]
    rw [hpriority] at hnone
    rw [escalateTask_escalated (hterms.symm ▸ hpriority) hnone, hturn]
    exact ⟨rfl, rfl⟩

private theorem settled_sweep (h : Escalated s) (hid : Identified s) (hsettled : ∀ id, Settled now s id)
    {ts : List Task} (hopen : ∀ t ∈ ts, t ∈ openTasks s) (report : Escalations) :
    (ts.foldl (escalateTask actorId now) (s, report)).1 = s ∧
      (ts.foldl (escalateTask actorId now) (s, report)).2.created = report.created := by
  induction ts generalizing report with
  | nil => exact ⟨rfl, rfl⟩
  | cons t ts ih =>
    obtain ⟨hsame, hcreated⟩ :=
      @settled_turn s t actorId now h hid (hopen t (List.mem_cons_self ..)) (hsettled t.id) report
    have hturn : escalateTask actorId now (s, report) t = (s, (escalateTask actorId now (s, report) t).2) :=
      Prod.ext hsame rfl
    obtain ⟨hfinal, hcount⟩ := ih (fun u hu => hopen u (List.mem_cons_of_mem _ hu))
      (escalateTask actorId now (s, report) t).2
    rw [List.foldl_cons, hturn]
    exact ⟨hfinal, hcount.trans hcreated⟩

end Sweep

/-- Whatever requests interleave, an overdue task has at least the level of its priority and its one open
action exactly that: no sweep ever raises a task or an action, and no action that was recorded changes or goes. -/
theorem escalation_never_raises (hid : Identified s) (h : Escalated s) (calls : List (Instant × Call)) :
    Escalated (run env settings s calls) ∧ s.actions <+: (run env settings s calls).actions ∧
      ∀ actorId now, Quiet (syncWorkflowEscalations (run env settings s calls) actorId now).2 := by
  have hchange : ∀ x y, Identified x → Escalated x ∧ s.actions <+: x.actions → Change env x y →
      Escalated y ∧ s.actions <+: y.actions := by
    rintro x y hx ⟨hescalated, hprefix⟩ hxy
    obtain ⟨hescalated', hstep⟩ := escalated_change hescalated hx hxy
    exact ⟨hescalated', hprefix.trans hstep⟩
  obtain ⟨hid', h', hprefix⟩ := @run_keeps env settings s _ hchange hid ⟨h, List.prefix_rfl⟩ calls
  refine ⟨h', hprefix, fun actorId now => ?_⟩
  have hempty : Quiet {} := ⟨rfl, fun _ hitem => absurd hitem List.not_mem_nil⟩
  exact (sweep_settles env (openTasks_nodup hid'.tasks) (openTasks_rows hid'.tasks) hid' h' hempty).1

/-- A sweep leaves every overdue task that is not of low priority with exactly one open action, and a
second sweep at the same time, by whomever, changes nothing. -/
theorem sweep_is_exhaustive (hid : Identified s) (h : Escalated s) (actorId other : Option Nat) (now : Int) :
    let swept := (syncWorkflowEscalations s actorId now).1
    (∀ task ∈ swept.tasks, task.overdue now = true → task.priority ≠ .LOW →
      (swept.actions.filter (isOpenFor task.id)).length = 1) ∧
      (syncWorkflowEscalations swept other now).1 = swept ∧
      (syncWorkflowEscalations swept other now).2.created = 0 := by
  intro swept
  have env : Env := ⟨id, none⟩
  have hempty : Quiet {} := ⟨rfl, fun _ hitem => absurd hitem List.not_mem_nil⟩
  have hchanges : Relation.ReflTransGen (Change env) s swept := syncWorkflowEscalations_changes hid.tasks
  obtain ⟨hid', h', -⟩ := escalated_changes hid h hchanges
  have hsettled : ∀ id, Settled now swept id := by
    intro id
    refine (sweep_settles env (openTasks_nodup hid.tasks) (openTasks_rows hid.tasks) hid h hempty).2 id ?_
    by_cases hin : id ∈ (openTasks s).map Task.id
    · exact .inr hin
    · refine .inl fun task hrow hopen => absurd (List.mem_map.mpr ⟨task, ?_, lookup_key hrow⟩) hin
      exact List.mem_filter.mpr ⟨lookup_mem hrow, decide_eq_true hopen⟩
  refine ⟨fun task htask hlate hlow => ?_, settled_sweep h' hid' hsettled (fun _ ht => ht) {}⟩
  have hopen : task.status ≠ .COMPLETED := (of_decide_eq_true hlate).1
  have hlevel : escalationLevel task now ≠ .NONE := by
    rw [escalationLevel, if_neg (fun hnot => hnot.elim (· hlate) hopen)]
    cases hpriority : task.priority <;> simp_all [Priority.level]
  have hsome := (hsettled task.id task (lookup_of_mem hid'.tasks htask) hopen).2 hlevel
  obtain ⟨action, hfound⟩ := Option.isSome_iff_exists.mp hsome
  obtain ⟨hmem, hown⟩ := openAction?_found hfound
  have hpos := List.length_pos_of_mem (List.mem_filter.mpr ⟨hmem, hown⟩)
  have honce := h'.once task.id
  omega

section Samples

private def sampleInstant : Instant := ⟨0, epoch_inRange⟩

private def sampleEnv : Env where
  sha256 := fun text => text
  lateChargeEffectiveDate := none

/-- A task created late: swept, and swept again. -/
private def sampleCalls : List (Instant × Call) :=
  [(sampleInstant, .createTask 7 "RECONCILIATION" "critical" none (some (-1)) none),
    (sampleInstant, .syncEscalations 7), (sampleInstant, .syncEscalations 8)]

private theorem sample_identified : Identified {} := ⟨by decide, by decide, by decide⟩

private theorem sample_escalated : Escalated {} :=
  ⟨fun _ h => absurd h List.not_mem_nil, fun _ h => absurd h List.not_mem_nil, fun _ => Nat.zero_le _⟩

theorem sample_escalation_never_raises : Escalated (run sampleEnv ⟨[], 1⟩ {} sampleCalls) :=
  (escalation_never_raises sample_identified sample_escalated sampleCalls).1

private def lateTask : Task where
  id := 1
  actionCode := "RECONCILIATION"
  priority := .CRITICAL
  assignedTo := none
  dueAt := some (-1)
  description := none
  createdBy := 7
  createdAt := 0
  updatedAt := 0

private theorem late_escalated : Escalated { tasks := [lateTask] } :=
  ⟨by decide, fun _ h => absurd h List.not_mem_nil, fun _ => Nat.zero_le _⟩

theorem sample_sweep_is_exhaustive :
    (syncWorkflowEscalations { tasks := [lateTask] } (some 7) 0).1.actions.length = 1 ∧
      (syncWorkflowEscalations (syncWorkflowEscalations { tasks := [lateTask] } (some 7) 0).1 none 0).1 =
        (syncWorkflowEscalations { tasks := [lateTask] } (some 7) 0).1 :=
  ⟨rfl, (sweep_is_exhaustive ⟨by decide, by decide, by decide⟩ late_escalated (some 7) none 0).2.1⟩

end Samples

end Caixinha.Properties.WorkflowEscalation
