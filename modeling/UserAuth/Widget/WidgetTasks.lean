import Mathlib.Data.List.Nodup
import UserAuth.Lib.TreeErase
import UserAuth.Widget.WidgetStarts

namespace UserAuth
open WidgetContext WidgetScheduleNode

namespace WidgetContext

-- A stretch of code adds no task, and tells those that it drops to stop.
structure Drops (s : WidgetContext) (outcome : Outcome) : Prop where
  tasks : outcome.1.runTaskInfoList.Sublist s.runTaskInfoList
  told : ∀ taskInfo ∈ s.runTaskInfoList,
    taskInfo ∈ outcome.1.runTaskInfoList ∨ .poolCancel taskInfo.taskId ∈ outcome.2

namespace Drops

theorem same (kept : outcome.1.runTaskInfoList = s.runTaskInfoList) : Drops s outcome := by
  refine ⟨?_,fun taskInfo member => .inl ?_⟩
  · rw [kept]
  · rw [kept]
    exact member

theorem andThen {first : Outcome} {next : WidgetContext → Outcome} (one : Drops s first)
    (two : Drops first.1 (next first.1)) : Drops s (Mealy.andThen first next) := by
  refine ⟨two.tasks.trans one.tasks,fun taskInfo member => ?_⟩
  rcases one.told taskInfo member with kept | told
  · exact (two.told taskInfo kept).imp_right (List.mem_append_right _)
  · exact .inr (List.mem_append_left _ told)

-- The code before changes no task, the code before or after sends more.
theorem around (drops : Drops t outcome) (tasks : t.runTaskInfoList = s.runTaskInfoList)
    (more : outcome.2 ⊆ outputs) : Drops s (outcome.1,outputs) :=
  ⟨tasks ▸ drops.tasks,fun taskInfo member => (drops.told taskInfo (tasks.symm ▸ member)).imp_right (more ·)⟩

end Drops

section Same
variable {env : Env} {s : WidgetContext}

theorem advance_tasks : (advancePhaseLocked s next).1.runTaskInfoList = s.runTaskInfoList := by
  unfold advancePhaseLocked
  split <;> rfl

theorem startOnTerminateTimer_tasks : (startOnTerminateTimer env s).runTaskInfoList = s.runTaskInfoList := by
  unfold startOnTerminateTimer
  split <;> rfl

theorem endLocked_tasks : (endLocked s).1.runTaskInfoList = s.runTaskInfoList := by
  unfold endLocked
  dsimp only
  split
  · rfl
  · exact advance_tasks

theorem tryEndLocked_tasks : (tryEndLocked env s).1.runTaskInfoList = s.runTaskInfoList := by
  unfold tryEndLocked
  split
  · rfl
  · split
    · exact startOnTerminateTimer_tasks
    · exact endLocked_tasks

theorem onChildTerminated_tasks : (onChildTerminated env s).1.runTaskInfoList = s.runTaskInfoList := by
  have counted : (if s.activeChildCount > 0 then {s with activeChildCount:=s.activeChildCount - 1} else s).runTaskInfoList =
      s.runTaskInfoList := by
    split <;> rfl
  unfold onChildTerminated
  dsimp only
  generalize (if s.activeChildCount > 0 then {s with activeChildCount:=s.activeChildCount - 1} else s) = c at counted ⊢
  split
  · exact counted
  · exact tryEndLocked_tasks.trans counted

theorem clearSchedule_tasks : (clearSchedule env s).1.runTaskInfoList = s.runTaskInfoList := by
  unfold clearSchedule
  split
  · rfl
  · exact tryEndLocked_tasks

theorem onTerminateTimerTimeOut_tasks : (onTerminateTimerTimeOut s).1.runTaskInfoList = s.runTaskInfoList := by
  unfold onTerminateTimerTimeOut
  split
  · rfl
  · exact endLocked_tasks

theorem onStartFailed_tasks (errorCode : ResultCode) :
    (onStartFailed s errorCode).1.runTaskInfoList = s.runTaskInfoList := by
  unfold onStartFailed
  dsimp only
  split
  · rfl
  · exact endLocked_tasks.trans advance_tasks

theorem disconnectExtension_tasks : (disconnectExtension env s).1.runTaskInfoList = s.runTaskInfoList := by
  unfold disconnectExtension
  dsimp only
  split
  · rfl
  · split <;> rfl

theorem deliverEndLocked_tasks (resultCode : ResultCode) :
    (deliverEndLocked env s resultCode).1.runTaskInfoList = s.runTaskInfoList := by
  unfold deliverEndLocked
  dsimp only
  split
  · rfl
  · split
    · split <;> exact startOnTerminateTimer_tasks.trans advance_tasks
    · exact startOnTerminateTimer_tasks.trans advance_tasks

theorem lockedOut_tasks : (lockedOut s).1.runTaskInfoList = s.runTaskInfoList := by
  unfold lockedOut
  split <;> rfl

theorem showWidget_tasks (widgetRotatePara : WidgetRotatePara) :
    (showWidget env s widgetRotatePara).1.1.runTaskInfoList = s.runTaskInfoList := by
  unfold showWidget
  split
  · rfl
  · split
    · rfl
    · split
      · rfl
      · unfold connectExtensionAbility
        split <;> rfl

theorem skipFrozen_tasks (authType : AuthType) (elsewhere : List Output) :
    (skipFrozen s authType elsewhere).1.runTaskInfoList = s.runTaskInfoList := by
  unfold skipFrozen
  split
  · rfl
  · split <;> rfl

theorem procAuthResult_tasks (resultCode : ResultCode) (authType : AuthType) (freezingTime : Int32)
    (finalResult : Attributes) :
    (procAuthResult s resultCode authType freezingTime finalResult).1.runTaskInfoList = s.runTaskInfoList := by
  unfold procAuthResult
  split
  · rfl
  · split
    · rfl
    · dsimp only
      split
      · rfl
      · dsimp only [Mealy.andThen]
        split
        · exact skipFrozen_tasks _ _
        · rfl

theorem onChildAuthResult_tasks (resultCode : ResultCode) (authType : AuthType) (finalResult : Attributes) :
    (onChildAuthResult env s resultCode authType finalResult).1.runTaskInfoList = s.runTaskInfoList := by
  rw [onChildAuthResult_reported]
  refine onChildTerminated_tasks.trans ?_
  unfold childReported
  split
  · rfl
  · exact procAuthResult_tasks _ _ _ _

theorem onChildAuthTip_tasks (tipType : Int32) (authType : AuthType) (extraInfo : Attributes) :
    (onChildAuthTip env s tipType authType extraInfo).1.runTaskInfoList = s.runTaskInfoList := by
  unfold onChildAuthTip
  split
  · rfl
  · change (procAuthTipInfo env s authType).1.runTaskInfoList = _
    unfold procAuthTipInfo
    split
    · rfl
    · split
      · rfl
      · split
        · rfl
        · dsimp only [Mealy.andThen]
          split
          · exact skipFrozen_tasks _ _
          · rfl

theorem reportChildError_tasks (launch : ChildLaunch) (authType : AuthType) :
    (reportChildError env s launch authType).1.runTaskInfoList = s.runTaskInfoList := by
  unfold reportChildError
  split
  · exact onChildAuthResult_tasks _ _ _
  · exact onChildTerminated_tasks

theorem onStart_tasks : (onStart env s).1.1.runTaskInfoList = s.runTaskInfoList := by
  unfold onStart
  dsimp only
  split
  · rfl
  · split <;> rfl

theorem start_tasks : (start s).1.runTaskInfoList = s.runTaskInfoList := by
  unfold start
  split
  · split <;> rfl
  · exact advance_tasks

end Same

section Dropping
variable {env : Env} {s : WidgetContext}

theorem stopAllRunTask_drops (resultCode : ResultCode) : Drops s (stopAllRunTask env s resultCode) := by
  unfold stopAllRunTask
  have cleared : Drops s ({s with runTaskInfoList:=[]},s.runTaskInfoList.map fun taskInfo => .poolCancel taskInfo.taskId) :=
    ⟨List.nil_sublist _,fun taskInfo member => .inr (List.mem_map_of_mem member)⟩
  refine cleared.andThen (.same ?_)
  split
  · exact disconnectExtension_tasks
  · rfl

theorem endWith_drops (resultCode : ResultCode) : Drops s (endWith env s resultCode) := by
  unfold endWith
  dsimp only
  split
  · exact .same rfl
  · refine .andThen ((stopAllRunTask_drops resultCode).around advance_tasks (List.Subset.refl _)) ?_
    exact .andThen (.same (deliverEndLocked_tasks resultCode)) (.same tryEndLocked_tasks)

theorem connectExtension_drops (widgetRotatePara : WidgetRotatePara) :
    Drops s (connectExtension env s widgetRotatePara).1 := by
  unfold connectExtension
  dsimp only
  generalize (if widgetRotatePara.isReload then refreshAuthProfiles env s.para.authProfileMap s.para.authTypeList
    else (s.para.authProfileMap,true)) = refreshed
  split
  · exact .same rfl
  · split
    · exact (endWith_drops _).around lockedOut_tasks (List.Subset.refl _)
    · split
      · exact (endWith_drops _).around lockedOut_tasks (List.Subset.refl _)
      · exact .same ((showWidget_tasks _).trans lockedOut_tasks)

theorem launchWidget_drops : Drops s (launchWidget env s).1 := by
  unfold launchWidget
  split
  · exact .same rfl
  · exact (connectExtension_drops {}).around rfl (List.subset_append_right _ _)

theorem authWidgetReload_drops (orientation needRotate alreadyLoad : UInt32) (rotateAuthType : AuthType) :
    Drops s (authWidgetReload env s orientation needRotate alreadyLoad rotateAuthType).1 := by
  have loaded : (if alreadyLoad != 0 then {s with widgetAlreadyLoad:=1} else s).runTaskInfoList = s.runTaskInfoList := by
    split <;> rfl
  unfold authWidgetReload
  dsimp only
  split
  · exact .same loaded
  · exact (connectExtension_drops _).around loaded (List.Subset.refl _)

theorem onAuthSuccess_drops : Drops s (onAuthSuccess env s) := by
  unfold onAuthSuccess
  split <;> exact endWith_drops _

theorem endAuthAsCancel_drops : Drops s (endAuthAsCancel env s) := by
  unfold endAuthAsCancel
  split
  · exact endWith_drops _
  · split
    · exact .same rfl
    · exact endWith_drops _

theorem onScheduleAuthResult_drops (resultCode : ResultCode) (authType : AuthType) (token : Bytes) :
    Drops s (onScheduleAuthResult env s resultCode authType token) := by
  unfold onScheduleAuthResult
  split
  · exact endWith_drops _
  · dsimp only
    split <;> exact (endWith_drops _).around rfl (List.Subset.refl _)

theorem stop_drops : Drops s (stop env s) := by
  unfold stop
  split
  · exact .same advance_tasks
  · exact (endWith_drops _).andThen (.same rfl)

theorem stopAuthList_drops (authTypeList : List AuthType) : Drops s (stopAuthList s authTypeList) := by
  induction authTypeList generalizing s with
  | nil => exact .same rfl
  | cons authType rest ih =>
    unfold stopAuthList
    split
    · exact ih
    · next taskInfo found =>
      have one : Drops s ({s with runTaskInfoList:=s.runTaskInfoList.erase taskInfo},[.poolCancel taskInfo.taskId]) := by
        refine ⟨List.erase_sublist,fun other member => ?_⟩
        by_cases same : other = taskInfo
        · exact .inr (by simp [same])
        · exact .inl ((List.mem_erase_of_ne same).mpr member)
      exact one.andThen ih

def Distinct (s : WidgetContext) : Prop := (s.runTaskInfoList.map (·.authType)).Nodup

theorem Drops.distinct (drops : Drops s outcome) (distinct : Distinct s) : Distinct outcome.1 :=
  distinct.sublist (drops.tasks.map _)

-- With one task a type, stopping a type leaves none of it.
theorem stopAuthList_clears (distinct : Distinct s) (authTypeList : List AuthType) :
    ∀ taskInfo ∈ (stopAuthList s authTypeList).1.runTaskInfoList, taskInfo.authType ∉ authTypeList := by
  induction authTypeList generalizing s with
  | nil => simp
  | cons authType rest ih =>
    unfold stopAuthList
    split
    · next missing =>
      intro taskInfo member
      have before := (stopAuthList_drops rest).tasks.mem member
      have other : taskInfo.authType ≠ authType := by simpa using List.find?_eq_none.mp missing taskInfo before
      simp [other,ih distinct taskInfo member]
    · next found here =>
      intro taskInfo member
      have own : found.authType = authType := by simpa using List.find?_some here
      have erased : Distinct {s with runTaskInfoList:=s.runTaskInfoList.erase found} :=
        distinct.sublist (List.erase_sublist.map _)
      have before : taskInfo ∈ s.runTaskInfoList.erase found := (stopAuthList_drops rest).tasks.mem member
      have nodup : s.runTaskInfoList.Nodup := List.Nodup.of_map _ distinct
      obtain ⟨apart,kept⟩ := nodup.mem_erase_iff.mp before
      have other : taskInfo.authType ≠ authType := by
        intro same
        exact apart (List.inj_on_of_nodup_map distinct kept (List.mem_of_find?_eq_some here) (same.trans own.symm))
      simp [other,ih erased taskInfo member]

end Dropping

section Launching
variable {env : Env} {s : WidgetContext}

-- A launch that succeeds is a child and a task.
theorem buildTask_tasks (authType : AuthType) (endAfterFirstFail : Bool) (authIntent : AuthIntent) :
    let built := buildTask env s authType endAfterFirstFail authIntent
    built.1.1.runTaskInfoList = s.runTaskInfoList ∧
      launchedChildren env built.1.2 = built.2.toList.map fun taskId => ⟨authType,taskId⟩ := by
  unfold buildTask
  dsimp only
  split
  · exact ⟨reportChildError_tasks _ _,reportChildError_childless _ _ _⟩
  · split
    · exact ⟨reportChildError_tasks _ _,reportChildError_childless _ _ _⟩
    · split
      · next failed =>
        have unscheduled : (env.child authType).scheduled = false := by simpa using failed
        refine ⟨reportChildError_tasks _ _,?_⟩
        rw [Mealy.andThen,launchedChildren_append,reportChildError_childless]
        simp [launchedChildren,Output.launchedChild,buildAuthenticationPara,unscheduled]
      · next scheduled =>
        have scheduled : (env.child authType).scheduled = true := by simpa using scheduled
        exact ⟨rfl,by simp [launchedChildren,Output.launchedChild,buildAuthenticationPara,scheduled]⟩

theorem launchTask_tasks (authType : AuthType) (endAfterFirstFail : Bool) (authIntent : AuthIntent) :
    (launchTask env s authType endAfterFirstFail authIntent).1.runTaskInfoList =
        s.runTaskInfoList ++ launchedChildren env (launchTask env s authType endAfterFirstFail authIntent).2 ∧
      ((launchedChildren env (launchTask env s authType endAfterFirstFail authIntent).2).map (·.authType)).Sublist
        [authType] := by
  obtain ⟨tasks,children⟩ := @buildTask_tasks env {s with activeChildCount:=s.activeChildCount + 1} authType
    endAfterFirstFail authIntent
  rw [launchTask_outputs,children]
  unfold launchTask
  dsimp only
  split
  · next failed => exact ⟨by simp [failed,tasks],by simp [failed]⟩
  · next taskId built =>
    refine ⟨?_,by simp [built]⟩
    dsimp only [Mealy.andThen]
    split <;> simp [built,tasks]

theorem launchTasks_tasks (endAfterFirstFail : Bool) (authIntent : AuthIntent) (authTypeList : List AuthType) :
    (launchTasks env s endAfterFirstFail authIntent authTypeList).1.runTaskInfoList =
        s.runTaskInfoList ++ launchedChildren env (launchTasks env s endAfterFirstFail authIntent authTypeList).2 ∧
      ((launchedChildren env (launchTasks env s endAfterFirstFail authIntent authTypeList).2).map (·.authType)).Sublist
        authTypeList := by
  induction authTypeList generalizing s with
  | nil => exact ⟨(List.append_nil _).symm,List.Sublist.refl _⟩
  | cons authType rest ih =>
    obtain ⟨tasks,types⟩ := @launchTask_tasks env s authType endAfterFirstFail authIntent
    obtain ⟨later,laterTypes⟩ := ih (s:=(launchTask env s authType endAfterFirstFail authIntent).1)
    simp only [launchTasks,Mealy.andThen,launchedChildren_append,List.map_append]
    refine ⟨?_,types.append laterTypes⟩
    rw [later,tasks,List.append_assoc]

end Launching
end WidgetContext

namespace WidgetSession

-- States out of which the schedule can still start an authentication.
def isOpen : State → Bool
  | .S_WIDGET_AUTH_FINISHED | .S_WIDGET_RELEASED => false
  | _ => true

-- A session has one task a type, and while it can start more the running set
-- names each.
structure Registered (running : Bool) (owner : Owner) : Prop where
  distinct : Distinct owner.context
  running : running = true → ∀ taskInfo ∈ owner.context.runTaskInfoList, taskInfo.authType ∈ owner.node.runningAuthTypeSet

-- What a stretch of the schedule's work does to the tasks: those that it drops
-- are told to stop, and every child that it launches is one.
structure Tends (before after : Bool) (owner next : Owner) (outputs : List Output) (launched : List TaskInfo) : Prop where
  registered : Registered before owner → Registered after next
  told : ∀ taskInfo ∈ owner.context.runTaskInfoList,
    taskInfo ∈ next.context.runTaskInfoList ∨ .poolCancel taskInfo.taskId ∈ outputs
  born : ∀ taskInfo ∈ launched, taskInfo ∈ next.context.runTaskInfoList

section Tending
variable {owner next : Owner} {env : WidgetContext.Env}

theorem tends_drops (drops : Drops owner.context (next.context,outputs)) (closes : after = true → before = true)
    (running : after = true → next.node.runningAuthTypeSet = owner.node.runningAuthTypeSet) :
    Tends before after owner next outputs [] := by
  refine ⟨fun registered => ⟨drops.distinct registered.distinct,fun opened taskInfo member => ?_⟩,drops.told,nofun⟩
  rw [running opened]
  exact registered.running (closes opened) taskInfo (drops.tasks.mem member)

theorem route_launchedChildren (outputs : List Output) :
    launchedChildren env (route owner outputs).2.2 = launchedChildren env outputs := by
  induction outputs generalizing owner with
  | nil => rfl
  | cons output rest ih =>
    have tips := (take_idle owner output).childless env
    have tail : launchedChildren env ((take owner output).2.2 ++ (route (take owner output).1 rest).2.2) =
        launchedChildren env rest := by
      rw [launchedChildren_append,tips,ih]
      rfl
    simp only [route]
    simp only [launchedChildren,List.filterMap_cons] at tail ⊢
    rw [tail]

theorem run_drops (drops : Drops owner.context outcome) :
    Drops owner.context ((run owner outcome).1.context,(run owner outcome).2.2) :=
  have kept : (run owner outcome).1.context = outcome.1 := (route_keeps _ _).1
  kept ▸ drops.around rfl (route_sends _ _)

theorem run_running (owner : Owner) (outcome : Outcome) :
    (run owner outcome).1.node.runningAuthTypeSet = owner.node.runningAuthTypeSet := (route_keeps _ _).2

theorem run_tends (drops : Drops owner.context outcome) (childless : launchedChildren env outcome.2 = [])
    (closes : after = true → before = true) :
    Tends before after owner (run owner outcome).1 (run owner outcome).2.2 (launchedChildren env (run owner outcome).2.2) := by
  have none : launchedChildren env (run owner outcome).2.2 = [] := (route_launchedChildren _).trans childless
  rw [none]
  exact tends_drops (run_drops drops) closes fun _ => run_running owner outcome

end Tending

-- An action out of a state that is open or not, into one that is or is not.
def Tended (before after : Bool) (action : Action) : Prop :=
  ∀ env owner, Tends before after owner (action env owner).1 (action env owner).2.2
    (launchedChildren env (action env owner).2.2)

section Actions

theorem tended_of {handler : WidgetContext.Env → Owner → Outcome} (drops : ∀ env owner, Drops owner.context (handler env owner))
    (childless : ∀ env owner, launchedChildren env (handler env owner).2 = []) (closes : after = true → before = true) :
    Tended before after fun env owner => run owner (handler env owner) :=
  fun env owner => run_tends (drops env owner) (childless env owner) closes

theorem tended_runOrCancel {handler : WidgetContext.Env → Owner → Outcome × Bool}
    (drops : ∀ env owner, Drops owner.context (handler env owner).1)
    (childless : ∀ env owner, launchedChildren env (handler env owner).1.2 = []) :
    Tended true true fun env owner => runOrCancel owner (handler env owner) := by
  intro env owner
  have tends := run_tends (drops env owner) (childless env owner) fun opened : true = true => opened
  unfold runOrCancel
  dsimp only
  split <;> exact tends

-- An action that changes the running set first and leaves no open state.
theorem tended_closing {handler : WidgetContext.Env → Owner → Outcome} {before : Owner → Owner}
    (same : ∀ owner, (before owner).context = owner.context)
    (drops : ∀ env owner, Drops owner.context (handler env owner))
    (childless : ∀ env owner, launchedChildren env (handler env owner).2 = []) :
    Tended true false fun env owner => run (before owner) (handler env owner) := by
  intro env owner
  have none : launchedChildren env (run (before owner) (handler env owner)).2.2 = [] :=
    (route_launchedChildren _).trans (childless env owner)
  rw [none]
  have kept : (before owner).context = owner.context := same owner
  have dropped : Drops (before owner).context (handler env owner) := kept.symm ▸ drops env owner
  exact tends_drops (kept ▸ run_drops dropped) nofun nofun

@[simp] theorem onGetRemoteAuthParam_tended : Tended true true onGetRemoteAuthParam :=
  tended_of (fun _ _ => .same rfl) (fun env _ => getRemoteAuthParam_idle.childless env) fun _ => rfl

@[simp] theorem onStartSchedule_tended : Tended true true onStartSchedule :=
  tended_runOrCancel (fun _ _ => launchWidget_drops) fun env _ => launchWidget_tallies.childless env

@[simp] theorem onWidgetReload_tended : Tended true true onWidgetReload :=
  tended_runOrCancel (fun _ _ => authWidgetReload_drops _ _ _ _) fun env _ => (authWidgetReload_tallies _ _ _ _).childless env

@[simp] theorem onWidgetReloadInit_tended : Tended true true onWidgetReloadInit :=
  tended_of (fun _ _ => .same disconnectExtension_tasks) (fun env _ => disconnectExtension_tallies.childless env) fun _ => rfl

@[simp] theorem onStopSchedule_tended : Tended true false onStopSchedule :=
  tended_of (fun _ _ => endAuthAsCancel_drops) (fun env _ => endAuthAsCancel_tallies.childless env) nofun

@[simp] theorem onNaviPinAuth_tended : Tended true false onNaviPinAuth :=
  tended_of (fun _ _ => endWith_drops _) (fun env _ => (endWith_tallies _).childless env) nofun

@[simp] theorem onWidgetParaInvalid_tended : Tended true false onWidgetParaInvalid :=
  tended_of (fun _ _ => endWith_drops _) (fun env _ => (endWith_tallies _).childless env) nofun

@[simp] theorem onSendAuthResult_tended : Tended true false onSendAuthResult :=
  tended_of (fun _ _ => onScheduleAuthResult_drops _ _ _) (fun env _ => (onScheduleAuthResult_tallies _ _ _).childless env)
    nofun

@[simp] theorem onSuccessAuth_tended : Tended true false onSuccessAuth :=
  tended_closing (fun _ => rfl) (fun _ _ => onAuthSuccess_drops) fun env _ => onAuthSuccess_tallies.childless env

@[simp] theorem onFailAuth_tended : Tended true false onFailAuth :=
  tended_closing (fun _ => rfl) (fun _ _ => endWith_drops _) fun env _ => (endWith_tallies _).childless env

theorem clearSchedule_childless (env : WidgetContext.Env) (c : WidgetContext) :
    launchedChildren env (WidgetContext.clearSchedule env c).2 = [] := by
  unfold WidgetContext.clearSchedule
  split
  · rfl
  · exact tryEndLocked_paced.childless env

@[simp] theorem onWidgetRelease_tended : Tended before false onWidgetRelease :=
  tended_of (fun _ _ => .same clearSchedule_tasks) (fun env _ => clearSchedule_childless env _) nofun

-- The running set takes in the types that are started, none of which had a task.
@[simp] theorem onStartAuth_tended : Tended true true onStartAuth := by
  intro env owner
  rw [onStartAuth_acts]
  have started (authType : AuthType) : authType ∈ (startSet owner.node).toList → authType ∉ owner.node.runningAuthTypeSet :=
    fun member => ((mem_startSet owner.node authType).mp (Std.ExtTreeSet.mem_toList.mp member)).2
  let owner' : Owner := {owner with node:={owner.node with
    runningAuthTypeSet:=owner.node.runningAuthTypeSet.insertMany (startSet owner.node).toList}}
  let outcome := executeAuthList env owner.context (startSet owner.node).toList owner.node.endAfterFirstFail
    owner.node.authIntent
  have context : (run owner' outcome).1.context = outcome.1 := (route_keeps _ _).1
  have launched : launchedChildren env (run owner' outcome).2.2 = launchedChildren env outcome.2 := route_launchedChildren _
  have running (authType : AuthType) : authType ∈ (run owner' outcome).1.node.runningAuthTypeSet ↔
      authType ∈ owner.node.runningAuthTypeSet ∨ authType ∈ (startSet owner.node).toList := by
    rw [run_running,Std.ExtTreeSet.mem_insertMany_list,List.contains_iff_mem]
  have tasks : outcome.1.runTaskInfoList = owner.context.runTaskInfoList ++ launchedChildren env outcome.2 ∧
      ((launchedChildren env outcome.2).map (·.authType)).Sublist (startSet owner.node).toList := by
    simp only [outcome,executeAuthList]
    split
    · exact ⟨(List.append_nil _).symm,List.nil_sublist _⟩
    · exact launchTasks_tasks _ _ _
  obtain ⟨tasks,types⟩ := tasks
  change Tends true true owner (run owner' outcome).1 (run owner' outcome).2.2 _
  refine ⟨fun registered => ⟨?_,fun _ taskInfo member => ?_⟩,fun taskInfo member => .inl ?_,fun taskInfo member => ?_⟩
  · rw [context,Distinct,tasks,List.map_append]
    refine registered.distinct.append ((startSet_nodup owner.node).sublist types) fun authType old new => ?_
    obtain ⟨taskInfo,member,rfl⟩ := List.mem_map.mp old
    exact started _ (types.mem new) (registered.running rfl taskInfo member)
  · rw [context,tasks] at member
    rw [running]
    rcases List.mem_append.mp member with old | new
    · exact .inl (registered.running rfl taskInfo old)
    · exact .inr (types.mem (List.mem_map_of_mem new))
  · rw [context,tasks]
    exact List.mem_append_left _ member
  · rw [context,tasks]
    rw [launched] at member
    exact List.mem_append_right _ member

@[simp] theorem onStartDirectAuth_tended : Tended true true onStartDirectAuth := onStartAuth_tended

-- The running set loses the types that are stopped, of which no task is left.
@[simp] theorem onStopAuthList_tended : Tended true true onStopAuthList := by
  intro env owner
  let owner' : Owner := {owner with node:={owner.node with
    runningAuthTypeSet:=owner.node.runningAuthTypeSet.eraseMany owner.node.stopAuthTypeList}}
  let outcome := WidgetContext.stopAuthList owner.context owner.node.stopAuthTypeList
  have drops : Drops owner.context outcome := stopAuthList_drops _
  have context : (run owner' outcome).1.context = outcome.1 := (route_keeps _ _).1
  have childless : launchedChildren env (run owner' outcome).2.2 = [] :=
    (route_launchedChildren _).trans ((stopAuthList_tallies _).childless env)
  have routed : Drops owner'.context ((run owner' outcome).1.context,(run owner' outcome).2.2) := run_drops drops
  have tends : Tends true false owner (run owner' outcome).1 (run owner' outcome).2.2 [] := tends_drops routed nofun nofun
  change Tends true true owner (run owner' outcome).1 (run owner' outcome).2.2 (launchedChildren env (run owner' outcome).2.2)
  rw [childless]
  refine ⟨fun registered => ⟨(tends.registered registered).distinct,fun _ taskInfo member => ?_⟩,tends.told,nofun⟩
  rw [context] at member
  rw [run_running,TreeErase.mem_eraseMany]
  exact ⟨registered.running rfl taskInfo (drops.tasks.mem member),
    stopAuthList_clears registered.distinct owner.node.stopAuthTypeList taskInfo member⟩

theorem transition_tended (found : transitionMap state cause = some (next,action)) :
    Tended (isOpen state) (isOpen next) action := by
  unfold transitionMap at found
  split at found <;> cases found <;> simp [isOpen]

end Actions

section Steps
variable {s : WidgetSession} {env : WidgetContext.Env}

theorem outside_drops (call : OutsideCall) (c : WidgetContext) :
    Drops c (WidgetContext.step c ⟨call.toCall,env⟩) ∧
      launchedChildren env (WidgetContext.step c ⟨call.toCall,env⟩).2 = [] := by
  cases call with
  | start => exact ⟨.same start_tasks,rfl⟩
  | onStart =>
    have uncounted : Call.uncounted .onStart = true := rfl
    refine ⟨.same ?_,(step_tallies c env uncounted).childless env⟩
    simp only [OutsideCall.toCall,WidgetContext.step]
    split
    · exact onStart_tasks
    · rfl
  | onStartFailed errorCode => exact ⟨.same (onStartFailed_tasks errorCode),(onStartFailed_tallies errorCode).childless env⟩
  | stop => exact ⟨stop_drops,stop_tallies.childless env⟩
  | reportStopBeforeStart =>
    have uncounted : Call.uncounted .reportStopBeforeStart = true := rfl
    refine ⟨.same ?_,(step_tallies c env uncounted).childless env⟩
    simp only [OutsideCall.toCall,WidgetContext.step]
    split
    · exact onStartFailed_tasks _
    · rfl
  | onChildAuthResult resultCode authType finalResult =>
    refine ⟨.same (onChildAuthResult_tasks _ _ _),?_⟩
    change launchedChildren env (onChildAuthResult env c resultCode authType finalResult).2 = []
    have reported := childReported_quiets c resultCode authType finalResult
    rw [onChildAuthResult_reported,Mealy.andThen,launchedChildren_append,reported.idle.childless,
      onChildTerminated_childless]
    rfl
  | onChildAuthTip tipType authType extraInfo =>
    exact ⟨.same (onChildAuthTip_tasks _ _ _),onChildAuthTip_quiets.idle.childless env⟩
  | setRemoteAuthParam widgetParam modalCallback =>
    exact ⟨.same rfl,(setRemoteAuthParam_tallies widgetParam modalCallback).childless env⟩
  | onTerminateTimerTimeOut =>
    refine ⟨.same onTerminateTimerTimeOut_tasks,?_⟩
    change launchedChildren env (onTerminateTimerTimeOut c).2 = []
    unfold onTerminateTimerTimeOut
    split
    · rfl
    · exact (endLocked_paced (.inl rfl)).childless env

theorem same_tends (context : next.context = owner.context)
    (running : next.node.runningAuthTypeSet = owner.node.runningAuthTypeSet) :
    Tends before before owner next outputs [] :=
  tends_drops (.same (congrArg WidgetContext.runTaskInfoList context)) id fun _ => running

theorem processNotice_keeps (owner : Owner) (notice : WidgetNotice) (authTypeList : List AuthType) :
    (processNotice owner notice authTypeList).1.context = owner.context ∧
      (processNotice owner notice authTypeList).1.node.runningAuthTypeSet = owner.node.runningAuthTypeSet := by
  unfold processNotice
  split
  · exact ⟨rfl,rfl⟩
  · cases notice.event with
    | NOTICE_EVENT_CANCEL_AUTH =>
      dsimp only
      split <;> exact ⟨rfl,rfl⟩
    | NOTICE_EVENT_RELOAD =>
      dsimp only
      split
      · split <;> exact ⟨rfl,rfl⟩
      · exact ⟨rfl,rfl⟩
    | NOTICE_EVENT_AUTH_WIDGET_LOADED =>
      dsimp only [widgetLoad]
      split <;> exact ⟨rfl,rfl⟩
    | NOTICE_EVENT_PROCESS_TERMINATE => exact take_keeps owner .clientClearSchedule
    | NOTICE_EVENT_COMPLETE_AUTH =>
      dsimp only
      split
      · exact ⟨rfl,rfl⟩
      · simp only [onWidgetResult]
        split <;> exact ⟨rfl,rfl⟩
    | _ => exact ⟨rfl,rfl⟩

theorem step_tends (s : WidgetSession) (input : Input) :
    Tends (isOpen s.currentState) (isOpen (step s input).1.currentState) s.owner (step s input).1.owner (step s input).2
      (launchedBy input (step s input).2) := by
  cases input with
  | scheduleInner env =>
    cases pending : s.pendingEvents with
    | nil =>
      rw [turn_idles env pending]
      exact same_tends rfl rfl
    | cons first rest =>
      cases found : transitionMap s.currentState first with
      | none =>
        rw [turn_drops env pending found]
        exact same_tends rfl rfl
      | some transition =>
        obtain ⟨next,action⟩ := transition
        rw [turn_acts env pending found]
        exact transition_tended found env s.owner
  | context call env =>
    obtain ⟨drops,childless⟩ := @outside_drops env call s.owner.context
    exact run_tends drops childless id
  | notice notice authTypeList =>
    obtain ⟨context,running⟩ := processNotice_keeps s.owner notice authTypeList
    exact same_tends context running
  | forceStopAuth =>
    have kept : (forceStopAuth s.owner).1.context = s.owner.context ∧
        (forceStopAuth s.owner).1.node.runningAuthTypeSet = s.owner.node.runningAuthTypeSet := by
      unfold forceStopAuth
      split
      · exact ⟨rfl,rfl⟩
      · exact take_keeps s.owner .clientClearSchedule
    exact same_tends kept.1 kept.2
  | forceStopAuthOf =>
    have kept := take_keeps s.owner .clientClearSchedule
    exact same_tends kept.1 kept.2
  | clientMoved loadedAuthTypeList => exact same_tends rfl rfl

end Steps
end WidgetSession
end UserAuth
