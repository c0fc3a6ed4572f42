import UserAuth.Widget.WidgetRequests

namespace UserAuth
open WidgetContext WidgetScheduleNode

namespace WidgetContext
open Phase

-- The child that a launch brings up, where nothing about it fails.
def Env.launchedChild (env : Env) (authType : AuthType) : Option UInt64 :=
  let launch := env.child authType
  if launch.iamCallback && launch.widgetCallback && launch.scheduled then launch.context else none

section Launches
variable {env : Env} {s : WidgetContext} {child : AuthenticationPara} {taskId : UInt64}

theorem childless_unsent (childless : ∀ env, launchedChildren env outputs = []) (child : AuthenticationPara)
    (taskId : UInt64) : .scheduleChild child taskId ∉ outputs := by
  intro member
  have taken : (⟨child.authType,taskId⟩ : TaskInfo) ∈ launchedChildren fairEnv outputs :=
    List.mem_filterMap.mpr ⟨_,member,rfl⟩
  rw [childless fairEnv] at taken
  cases taken

theorem onChildTerminated_childless (env' : Env) : launchedChildren env' (onChildTerminated env s).2 = [] := by
  unfold onChildTerminated
  dsimp only
  generalize (if s.activeChildCount > 0 then {s with activeChildCount:=s.activeChildCount - 1} else s) = counted
  split
  · rfl
  · exact tryEndLocked_paced.childless env'

theorem reportChildError_childless (launch : ChildLaunch) (authType : AuthType) (env' : Env) :
    launchedChildren env' (reportChildError env s launch authType).2 = [] := by
  unfold reportChildError
  split
  · have reported := childReported_quiets s ResultCode.GENERAL_ERROR authType Attributes.empty
    rw [onChildAuthResult_reported,Mealy.andThen,launchedChildren_append,reported.idle.childless,onChildTerminated_childless]
    rfl
  · exact onChildTerminated_childless env'

theorem reportChildError_unsent (launch : ChildLaunch) (authType : AuthType) (child : AuthenticationPara)
    (taskId : UInt64) : .scheduleChild child taskId ∉ (reportChildError env s launch authType).2 :=
  childless_unsent (reportChildError_childless launch authType) child taskId

-- A child of one of the types, with the flag and the intent of the request.
def Asked (authTypeList : List AuthType) (endAfterFirstFail : Bool) (authIntent : AuthIntent) (child : AuthenticationPara) :
    Prop :=
  child.authType ∈ authTypeList ∧ child.endAfterFirstFail = endAfterFirstFail ∧ child.authIntent = authIntent

theorem buildTask_sends (authType : AuthType) (endAfterFirstFail : Bool) (authIntent : AuthIntent)
    (member : .scheduleChild child taskId ∈ (buildTask env s authType endAfterFirstFail authIntent).1.2) :
    Asked [authType] endAfterFirstFail authIntent child := by
  unfold buildTask at member
  dsimp only at member
  split at member
  · exact absurd member (reportChildError_unsent _ _ _ _)
  · split at member
    · exact absurd member (reportChildError_unsent _ _ _ _)
    · split at member
      · rcases List.mem_append.mp member with posted | failed
        · cases List.mem_singleton.mp posted
          exact ⟨List.mem_singleton_self _,rfl,rfl⟩
        · exact absurd failed (reportChildError_unsent _ _ _ _)
      · cases List.mem_singleton.mp member
        exact ⟨List.mem_singleton_self _,rfl,rfl⟩

theorem buildTask_launches_child (authType : AuthType) (endAfterFirstFail : Bool) (authIntent : AuthIntent)
    (launched : env.launchedChild authType = some taskId) :
    ∃ child, child.authType = authType ∧
      .scheduleChild child taskId ∈ (buildTask env s authType endAfterFirstFail authIntent).1.2 := by
  unfold Env.launchedChild at launched
  dsimp only at launched
  split at launched
  · rename_i complete
    simp only [Bool.and_eq_true] at complete
    refine ⟨buildAuthenticationPara env s authType endAfterFirstFail authIntent,rfl,?_⟩
    simp [buildTask,complete.1.1,complete.1.2,complete.2,launched]
  · cases launched

theorem launchTask_outputs (authType : AuthType) (endAfterFirstFail : Bool) (authIntent : AuthIntent) :
    (launchTask env s authType endAfterFirstFail authIntent).2 =
      (buildTask env {s with activeChildCount:=s.activeChildCount + 1} authType endAfterFirstFail authIntent).1.2 := by
  unfold launchTask
  dsimp only
  split
  · rfl
  · exact List.append_nil _

theorem launchTasks_sends (endAfterFirstFail : Bool) (authIntent : AuthIntent) (authTypeList : List AuthType)
    (member : .scheduleChild child taskId ∈ (launchTasks env s endAfterFirstFail authIntent authTypeList).2) :
    Asked authTypeList endAfterFirstFail authIntent child := by
  induction authTypeList generalizing s with
  | nil => cases member
  | cons authType rest ih =>
    rcases List.mem_append.mp member with first | later
    · rw [launchTask_outputs] at first
      obtain ⟨named,own⟩ := buildTask_sends _ _ _ first
      exact ⟨List.mem_cons.mpr (.inl (List.mem_singleton.mp named)),own⟩
    · obtain ⟨named,own⟩ := ih later
      exact ⟨List.mem_cons_of_mem _ named,own⟩

theorem launchTasks_launches_child (endAfterFirstFail : Bool) (authIntent : AuthIntent) (authTypeList : List AuthType)
    (named : authType ∈ authTypeList) (launched : env.launchedChild authType = some taskId) :
    ∃ child, child.authType = authType ∧
      .scheduleChild child taskId ∈ (launchTasks env s endAfterFirstFail authIntent authTypeList).2 := by
  induction authTypeList generalizing s with
  | nil => cases named
  | cons first rest ih =>
    rcases List.mem_cons.mp named with rfl | later
    · obtain ⟨child,same,member⟩ := buildTask_launches_child (s:={s with activeChildCount:=s.activeChildCount + 1})
        authType endAfterFirstFail authIntent launched
      rw [←launchTask_outputs] at member
      exact ⟨child,same,List.mem_append_left _ member⟩
    · obtain ⟨child,same,member⟩ := ih later (s:=(launchTask env s first endAfterFirstFail authIntent).1)
      exact ⟨child,same,List.mem_append_right _ member⟩

end Launches
end WidgetContext

namespace WidgetSession

theorem onWidgetTip_childless (authTypeList : List AuthType) (tipCode : Int32) : Idle (onWidgetTip authTypeList tipCode) := by
  intro output member
  obtain ⟨authType,_,tip⟩ := List.mem_flatMap.mp member
  exact onScheduleAuthTip_idle authType tipCode output tip

theorem take_idle (owner : Owner) (output : Output) : Idle (take owner output).2.2 := by
  cases output with
  | clientClearSchedule =>
    simp only [take,clearSchedule]
    split
    · exact idle_nil
    · exact .given (onWidgetTip_childless _ _) _
  | _ => exact idle_nil

-- Routing adds nothing but tips to what the context sends out.
theorem route_children (owner : Owner) (outputs : List Output) :
    .scheduleChild child taskId ∈ (route owner outputs).2.2 ↔ .scheduleChild child taskId ∈ outputs := by
  induction outputs generalizing owner with
  | nil => rfl
  | cons output rest ih =>
    have tips : .scheduleChild child taskId ∉ (take owner output).2.2 := by
      intro member
      cases take_idle owner output _ member
    simp only [route,List.mem_cons,List.mem_append,ih,tips,false_or]

theorem onStartAuth_children (env : WidgetContext.Env) (owner : Owner) (early : owner.context.phase < .STOPPING) :
    .scheduleChild child taskId ∈ (onStartAuth env owner).2.2 ↔
      .scheduleChild child taskId ∈ (launchTasks env owner.context owner.node.endAfterFirstFail owner.node.authIntent
        (startSet owner.node).toList).2 := by
  have launches : executeAuthList env owner.context (startSet owner.node).toList owner.node.endAfterFirstFail
      owner.node.authIntent = launchTasks env owner.context owner.node.endAfterFirstFail owner.node.authIntent
        (startSet owner.node).toList := if_neg (Nat.not_le.mpr early)
  rw [onStartAuth_acts,launches]
  exact route_children _ _

end WidgetSession

namespace WidgetRequestRun
open WidgetRequest WidgetSession

-- A start event is taken up in a session that has not begun to stop.
def StartTaken (s : WidgetRequestRun) (env : WidgetContext.Env) : Prop :=
  s.due (.session (.scheduleInner env)) = some .E_START_AUTH ∧
    (s.session.currentState = .S_WIDGET_WAITING ∨ s.session.currentState = .S_WIDGET_AUTH_RUNNING) ∧
    s.session.owner.context.phase < .STOPPING

def Childless (s : WidgetRequestRun) (authType : AuthType) : Prop := ∀ taskInfo ∈ s.live, taskInfo.authType ≠ authType

def Effective (s : WidgetRequestRun) : Input → Prop
  | .session (.scheduleInner env) => s.StartTaken env →
    ∃ authTypeList endAfterFirstFail authIntent,
      s.waiting.head? = some (.start authTypeList endAfterFirstFail authIntent) ∧
        ∀ authType ∈ authTypeList, s.Childless authType → ∀ taskId, env.launchedChild authType = some taskId →
          ∃ child, child.authType = authType ∧
            .scheduleChild child taskId ∈ (step s (.session (.scheduleInner env))).2
  | _ => True

-- A requested type without a child is still in the running set, or a later
-- request has taken its place.
def Suppressed (s : WidgetRequestRun) : Input → Prop
  | .session (.scheduleInner env) => s.StartTaken env ∧
    ∃ authTypeList endAfterFirstFail authIntent,
      s.waiting.head? = some (.start authTypeList endAfterFirstFail authIntent) ∧
        ∃ authType ∈ authTypeList, s.Childless authType ∧ (env.launchedChild authType).isSome = true ∧
          (authType ∈ s.session.owner.node.runningAuthTypeSet ∨ authType ∉ s.session.owner.node.startAuthTypeList)
  | _ => False

section Starts
variable {s : WidgetRequestRun} {env : WidgetContext.Env}

theorem start_turn (aligned : Aligned s) (taken : s.StartTaken env) :
    (∃ authTypeList endAfterFirstFail authIntent,
      s.waiting.head? = some (.start authTypeList endAfterFirstFail authIntent)) ∧
    ∀ child taskId, .scheduleChild child taskId ∈ (step s (.session (.scheduleInner env))).2 ↔
      .scheduleChild child taskId ∈ (launchTasks env s.session.owner.context s.session.owner.node.endAfterFirstFail
        s.session.owner.node.authIntent (startSet s.session.owner.node).toList).2 := by
  obtain ⟨due,state,early⟩ := taken
  obtain ⟨request,rest,waiting,same,later,pending⟩ := aligned_due aligned due
  have row : transitionMap s.session.currentState .E_START_AUTH = some (.S_WIDGET_AUTH_RUNNING,onStartAuth) := by
    rcases state with state | state <;> rw [state] <;> rfl
  have outputs : (step s (.session (.scheduleInner env))).2 = (onStartAuth env s.session.owner).2.2 := by
    simp only [step,Input.toSession]
    rw [turn_acts env pending row]
  constructor
  · rw [waiting]
    cases request with
    | start authTypeList endAfterFirstFail authIntent => exact ⟨_,_,_,rfl⟩
    | _ => cases same
  · intro child taskId
    rw [outputs]
    exact onStartAuth_children env s.session.owner early

theorem effective_iff (aligned : Aligned s) (input : Input) : Effective s input ↔ ¬Suppressed s input := by
  cases input with
  | session input =>
    cases input with
    | scheduleInner env =>
      constructor
      · intro effective ⟨taken,authTypeList,_,_,head,authType,named,childless,launchable,stale⟩
        obtain ⟨_,_,_,head',launches⟩ := effective taken
        rw [head] at head'
        cases head'
        obtain ⟨taskId,launched⟩ := Option.isSome_iff_exists.mp launchable
        obtain ⟨child,same,member⟩ := launches authType named childless taskId launched
        have sent := (launchTasks_sends _ _ _ (((start_turn aligned taken).2 child taskId).mp member)).1
        rw [same,Std.ExtTreeSet.mem_toList,mem_startSet] at sent
        exact stale.elim sent.2 fun overwritten => overwritten sent.1
      · intro fresh taken
        obtain ⟨⟨authTypeList,endAfterFirstFail,authIntent,head⟩,turn⟩ := start_turn aligned taken
        refine ⟨authTypeList,endAfterFirstFail,authIntent,head,fun authType named childless taskId launched => ?_⟩
        have handed : authType ∈ (startSet s.session.owner.node).toList := by
          rw [Std.ExtTreeSet.mem_toList,mem_startSet]
          by_contra kept
          refine fresh ⟨taken,authTypeList,endAfterFirstFail,authIntent,head,authType,named,childless,?_,?_⟩
          · rw [launched]
            rfl
          · tauto
        obtain ⟨child,same,member⟩ := launchTasks_launches_child _ _ _ handed launched
        exact ⟨child,same,(turn child taskId).mpr member⟩
    | _ => exact iff_of_true trivial not_false
  | result => exact iff_of_true trivial not_false

end Starts

theorem starts_effective_iff (context : WidgetContext) (inputs : List Input) :
    machine.Meets Effective (create context) inputs ↔
      machine.Meets (fun s input => ¬Suppressed s input) (create context) inputs := by
  have created : Aligned (create context) := rfl
  exact Mealy.meets_congr (m:=machine) (Q:=Aligned) (fun s input aligned => (step_waiting aligned input).1)
    (fun s input aligned => effective_iff aligned input) created inputs

-- The widget asks to be reloaded while its child fails: the stop that the
-- failure queues is dropped, and the type is not started again.
def failsWhileReloading (env : WidgetContext.Env) : List Input :=
  [.session (.context .start env),.session (.context .onStart env),.session (.scheduleInner env),
    .session (.notice {event:=.NOTICE_EVENT_AUTH_READY} [AuthType.PIN]),.session (.scheduleInner env),
    .session (.notice {event:=.NOTICE_EVENT_RELOAD} [AuthType.PIN]),.result 0 ResultCode.FAIL Attributes.empty env,
    .session (.scheduleInner env),.session (.scheduleInner env),.session (.scheduleInner env),
    .session (.notice {event:=.NOTICE_EVENT_AUTH_READY} [AuthType.PIN])]

theorem stale_start_suppressed : ¬machine.Meets Effective (create pinSession)
    (failsWhileReloading fairEnv ++ [.session (.scheduleInner fairEnv)]) := by
  have head : (machine.after (create pinSession) (failsWhileReloading fairEnv)).waiting.head? =
    some (.start [AuthType.PIN] false .DEFAULT) := by decide +kernel
  have none : (step (machine.after (create pinSession) (failsWhileReloading fairEnv))
    (.session (.scheduleInner fairEnv))).2.length = 0 := by decide +kernel
  have ended : (machine.after (create pinSession) (failsWhileReloading fairEnv)).live.length = 0 := by decide +kernel
  intro met
  have effective := ((Mealy.meets_append machine Effective _ _ _).mp met).2.1
  obtain ⟨_,_,_,head',launches⟩ := effective ⟨by decide +kernel,by decide +kernel,by decide +kernel⟩
  rw [head] at head'
  cases head'
  have childless : Childless (machine.after (create pinSession) (failsWhileReloading fairEnv)) AuthType.PIN := by
    intro taskInfo member
    rw [List.eq_nil_of_length_eq_zero ended] at member
    cases member
  obtain ⟨child,_,member⟩ := launches AuthType.PIN List.mem_cons_self childless 12 rfl
  rw [List.eq_nil_of_length_eq_zero none] at member
  cases member

end WidgetRequestRun
end UserAuth
