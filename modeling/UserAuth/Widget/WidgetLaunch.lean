import UserAuth.Widget.WidgetScheduleNode

namespace UserAuth
open WidgetContext WidgetScheduleNode

-- A widget comes up by an extension connect or by a modal start command. The
-- empty command takes a modal widget down.
def WidgetContext.Output.launches : Output → Bool
  | .connectServiceExtensionAbility _ => true
  | .sendCommand commandData => !commandData.isEmpty
  | _ => false

namespace WidgetContext
open Phase

def launched (outputs : List Output) : Bool := outputs.any Output.launches

@[simp] theorem launched_nil : launched [] = false := rfl
@[simp] theorem launched_cons (output : Output) (rest : List Output) :
    launched (output :: rest) = (output.launches || launched rest) := rfl
@[simp] theorem launched_append (xs ys : List Output) : launched (xs ++ ys) = (launched xs || launched ys) := List.any_append

theorem launched_andThen (first : Outcome) (next : WidgetContext → Outcome) :
    launched (Mealy.andThen first next).2 = (launched first.2 || launched (next first.1).2) := launched_append _ _

theorem andThen_still {first : Outcome} {next : WidgetContext → Outcome} (one : launched first.2 = false)
    (two : launched (next first.1).2 = false) : launched (Mealy.andThen first next).2 = false := by
  rw [launched_andThen,one,two]
  rfl

-- A launch condition taken over from the checks before it: the profiles are
-- read, nothing is locked out, the screen lets the widget up, and there is a
-- start command and somebody to take it.
def connects (env : Env) (s : WidgetContext) (widgetRotatePara : WidgetRotatePara) : Bool :=
  let refreshed := if widgetRotatePara.isReload then refreshAuthProfiles env s.para.authProfileMap s.para.authTypeList
    else (s.para.authProfileMap,true)
  let taker := if s.para.widgetParam.hasContext && env.supportFollowCallerUi then s.modalCallback else !s.connection
  refreshed.2 && !(lockedOut (storeProfiles s refreshed.1)).2 && isWidgetLaunchAllowed env &&
    (env.startCommand widgetRotatePara).any (!·.isEmpty) && taker

section Handlers
variable {env : Env} {s : WidgetContext}

theorem deliverResultLocked_still (resultCode : ResultCode) (attr : Attributes) :
    launched (deliverResultLocked s resultCode attr) = false := by
  unfold deliverResultLocked
  split <;> rfl

theorem endLocked_still : launched (endLocked s).2 = false := by
  unfold endLocked
  dsimp only
  split
  · rfl
  · rw [launched_append,launched_append]
    split
    · rw [deliverResultLocked_still]
      rfl
    · rfl

theorem tryEndLocked_still : launched (tryEndLocked env s).2 = false := by
  unfold tryEndLocked
  split
  · rfl
  · split
    · rfl
    · exact endLocked_still

theorem onChildTerminated_still : launched (onChildTerminated env s).2 = false := by
  unfold onChildTerminated
  dsimp only
  split
  · split
    · rfl
    · exact tryEndLocked_still
  · split
    · rfl
    · exact tryEndLocked_still

theorem clearSchedule_still : launched (clearSchedule env s).2 = false := by
  unfold clearSchedule
  split
  · rfl
  · exact tryEndLocked_still

theorem onTerminateTimerTimeOut_still : launched (onTerminateTimerTimeOut s).2 = false := by
  unfold onTerminateTimerTimeOut
  split
  · rfl
  · exact endLocked_still

theorem onStartFailed_still (errorCode : ResultCode) : launched (onStartFailed s errorCode).2 = false := by
  unfold onStartFailed
  dsimp only
  split
  · rfl
  · exact andThen_still (deliverResultLocked_still _ _) endLocked_still

theorem disconnectExtension_still : launched (disconnectExtension env s).2 = false := by
  unfold disconnectExtension
  have stop : launched (if s.schedule then [Output.schedule .stopSchedule] else []) = false := by split <;> rfl
  dsimp only
  split
  · rw [launched_append,stop]
    split <;> rfl
  · split
    · exact stop
    · rw [launched_append,stop]
      rfl

theorem cancels_still (tasks : List TaskInfo) :
    launched (tasks.map fun taskInfo => Output.poolCancel taskInfo.taskId) = false := by
  induction tasks with
  | nil => rfl
  | cons _ _ ih => exact ih

theorem stopAllRunTask_still (resultCode : ResultCode) : launched (stopAllRunTask env s resultCode).2 = false := by
  unfold stopAllRunTask
  apply andThen_still (cancels_still _)
  split
  · exact disconnectExtension_still
  · rfl

theorem deliverEndLocked_still (resultCode : ResultCode) : launched (deliverEndLocked env s resultCode).2 = false := by
  unfold deliverEndLocked
  dsimp only
  split
  · rfl
  · split
    · split
      · exact deliverResultLocked_still _ _
      · exact deliverResultLocked_still _ _
    · exact deliverResultLocked_still _ _

theorem endWith_still (resultCode : ResultCode) : launched (endWith env s resultCode).2 = false := by
  unfold endWith
  dsimp only
  split
  · rfl
  · exact andThen_still (stopAllRunTask_still _) (andThen_still (deliverEndLocked_still _) tryEndLocked_still)

theorem onScheduleAuthTip_still (authType : AuthType) (tipCode : Int32) :
    launched (onScheduleAuthTip authType tipCode) = false := by
  unfold onScheduleAuthTip
  split <;> rfl

theorem tip_still (condition : Prop) [Decidable condition] (authType : AuthType) (tipCode : Int32) :
    launched (if condition then onScheduleAuthTip authType tipCode else []) = false := by
  split
  · exact onScheduleAuthTip_still _ _
  · rfl

theorem skipFrozen_still (quiet : launched elsewhere = false) : launched (skipFrozen s authType elsewhere).2 = false := by
  unfold skipFrozen
  split
  · rfl
  · split
    · rfl
    · exact quiet

theorem procAuthResult_still : launched (procAuthResult s resultCode authType freezingTime finalResult).2 = false := by
  unfold procAuthResult
  split
  · rfl
  · split
    · dsimp only
      split <;> rfl
    · dsimp only
      split
      · rfl
      · apply andThen_still (tip_still _ _ _)
        dsimp only
        split
        · exact skipFrozen_still rfl
        · rfl

theorem onChildAuthResult_still : launched (onChildAuthResult env s resultCode authType finalResult).2 = false := by
  unfold onChildAuthResult
  refine andThen_still ?_ onChildTerminated_still
  split
  · rfl
  · exact andThen_still rfl procAuthResult_still

theorem procAuthTipInfo_still : launched (procAuthTipInfo env s authType).2 = false := by
  unfold procAuthTipInfo
  split
  · rfl
  · split
    · rfl
    · split
      · rfl
      · apply andThen_still (tip_still _ _ _)
        dsimp only
        split
        · exact skipFrozen_still rfl
        · rfl

theorem onChildAuthTip_still : launched (onChildAuthTip env s tipType authType extraInfo).2 = false := by
  unfold onChildAuthTip
  split
  · rfl
  · exact andThen_still rfl procAuthTipInfo_still

theorem reportChildError_still : launched (reportChildError env s launch authType).2 = false := by
  unfold reportChildError
  split
  · exact onChildAuthResult_still
  · exact onChildTerminated_still

theorem buildTask_still : launched (buildTask env s authType endAfterFirstFail authIntent).1.2 = false := by
  unfold buildTask
  dsimp only
  split
  · exact reportChildError_still
  · split
    · exact reportChildError_still
    · split
      · exact andThen_still rfl reportChildError_still
      · rfl

theorem launchTask_still : launched (launchTask env s authType endAfterFirstFail authIntent).2 = false := by
  unfold launchTask
  dsimp only
  split
  · exact buildTask_still
  · exact andThen_still buildTask_still rfl

theorem launchTasks_still : launched (launchTasks env s endAfterFirstFail authIntent authTypeList).2 = false := by
  induction authTypeList generalizing s with
  | nil => rfl
  | cons authType rest ih => exact andThen_still launchTask_still ih

theorem executeAuthList_still : launched (executeAuthList env s authTypeList endAfterFirstFail authIntent).2 = false := by
  unfold executeAuthList
  split
  · rfl
  · exact launchTasks_still

theorem stopAuthList_still : launched (stopAuthList s authTypeList).2 = false := by
  induction authTypeList generalizing s with
  | nil => rfl
  | cons authType rest ih =>
    unfold stopAuthList
    split
    · exact ih
    · exact andThen_still rfl ih

theorem onAuthSuccess_still : launched (onAuthSuccess env s).2 = false := by
  unfold onAuthSuccess
  split <;> exact endWith_still _

theorem endAuthAsCancel_still : launched (endAuthAsCancel env s).2 = false := by
  unfold endAuthAsCancel
  split
  · exact endWith_still _
  · split
    · rfl
    · exact endWith_still _

theorem onScheduleAuthResult_still : launched (onScheduleAuthResult env s resultCode authType token).2 = false := by
  unfold onScheduleAuthResult
  split
  · exact endWith_still _
  · dsimp only
    split <;> exact endWith_still _

theorem onStart_still : launched (onStart env s).1.2 = false := by
  unfold onStart
  dsimp only
  split
  · rfl
  · split
    · rfl
    · rw [launched_cons]
      split
      · rfl
      · split <;> rfl

theorem stop_still : launched (stop env s).2 = false := by
  unfold stop
  split
  · rfl
  · exact andThen_still (endWith_still _) rfl

theorem getRemoteAuthParam_still : launched (getRemoteAuthParam s) = false := by
  unfold getRemoteAuthParam
  split <;> rfl

end Handlers

section Launches
variable (env : Env) (s : WidgetContext)

theorem showWidget_launched (widgetRotatePara : WidgetRotatePara) :
    launched (showWidget env s widgetRotatePara).1.2 = ((env.startCommand widgetRotatePara).any (!·.isEmpty) &&
      if s.para.widgetParam.hasContext && env.supportFollowCallerUi then s.modalCallback else !s.connection) := by
  unfold showWidget
  cases env.startCommand widgetRotatePara with
  | none => rfl
  | some commandData =>
    dsimp only [Option.any_some]
    by_cases bare : commandData.isEmpty = true
    · simp [bare]
    · rw [if_neg bare]
      split
      · cases s.modalCallback <;> simp [Output.launches]
      · unfold connectExtensionAbility
        cases s.connection <;> simp [Output.launches,bare]

theorem connectExtension_launched (widgetRotatePara : WidgetRotatePara) :
    launched (connectExtension env s widgetRotatePara).1.2 = connects env s widgetRotatePara := by
  unfold connectExtension connects
  dsimp only
  generalize (if widgetRotatePara.isReload = true then refreshAuthProfiles env s.para.authProfileMap s.para.authTypeList
    else (s.para.authProfileMap,true)) = refreshed
  have keeps : (lockedOut (storeProfiles s refreshed.1)).1.para.widgetParam = s.para.widgetParam ∧
      (lockedOut (storeProfiles s refreshed.1)).1.modalCallback = s.modalCallback ∧
      (lockedOut (storeProfiles s refreshed.1)).1.connection = s.connection := by
    unfold lockedOut
    split <;> exact ⟨rfl,rfl,rfl⟩
  cases refreshed.2 with
  | false => rfl
  | true =>
    simp only [Bool.not_true,Bool.false_eq_true,if_false,Bool.true_and]
    cases (lockedOut (storeProfiles s refreshed.1)).2 with
    | true => exact endWith_still _
    | false =>
      simp only [Bool.false_eq_true,if_false,Bool.not_false,Bool.true_and]
      cases isWidgetLaunchAllowed env with
      | false => exact endWith_still _
      | true =>
        simp only [Bool.not_true,Bool.false_eq_true,if_false,Bool.true_and]
        rw [showWidget_launched,keeps.1,keeps.2.1,keeps.2.2]

theorem launchWidget_early (launch : launched (launchWidget env s).1.2 = true) : s.phase < STOPPING := by
  unfold launchWidget at launch
  split at launch
  · cases launch
  · rename_i live
    exact Nat.not_le.mp live

theorem connects_congr {env : Env} {s t : WidgetContext} (para : t.para = s.para) (modal : t.modalCallback = s.modalCallback)
    (connection : t.connection = s.connection) (widgetRotatePara : WidgetRotatePara) :
    connects env t widgetRotatePara = connects env s widgetRotatePara := by
  have locked (profiles : Std.ExtTreeMap AuthType ContextFactory.AuthProfile) :
      (lockedOut (storeProfiles t profiles)).2 = (lockedOut (storeProfiles s profiles)).2 := by
    unfold lockedOut storeProfiles isSingleFaceOrFingerPrintAuth
    simp only [para]
    split <;> rfl
  unfold connects
  simp only [para,modal,connection,locked]

theorem authWidgetReload_launched (orientation needRotate alreadyLoad : UInt32) (rotateAuthType : AuthType) :
    launched (authWidgetReload env s orientation needRotate alreadyLoad rotateAuthType).1.2 =
      connects env s ⟨true,orientation,needRotate,alreadyLoad,rotateAuthType⟩ := by
  unfold authWidgetReload isValidRotate
  dsimp only
  rw [Bool.not_true,if_neg Bool.false_ne_true,connectExtension_launched]
  split
  · exact connects_congr (s:=s) (t:={s with widgetAlreadyLoad:=1}) rfl rfl rfl _
  · rfl

end Launches
end WidgetContext

namespace WidgetSession
open Phase

-- Routing adds tips to what the context sends out, never a launch.
section Routing
variable (owner : Owner)

theorem onWidgetTip_still (authTypeList : List AuthType) (tipCode : Int32) :
    launched (onWidgetTip authTypeList tipCode) = false := by
  induction authTypeList with
  | nil => rfl
  | cons authType rest ih =>
    have split : onWidgetTip (authType :: rest) tipCode =
      onScheduleAuthTip authType tipCode ++ onWidgetTip rest tipCode := List.flatMap_cons
    rw [split,launched_append,onScheduleAuthTip_still,ih]
    rfl

theorem clearSchedule_still : launched (clearSchedule owner).2.2 = false := by
  unfold clearSchedule
  split
  · rfl
  · dsimp only
    split
    · exact onWidgetTip_still _ _
    · rfl

theorem take_still (output : Output) : launched (take owner output).2.2 = false := by
  cases output with
  | clientClearSchedule => exact clearSchedule_still owner
  | _ => rfl

theorem route_launched (outputs : List Output) : launched (route owner outputs).2.2 = launched outputs := by
  induction outputs generalizing owner with
  | nil => rfl
  | cons output rest ih => rw [route,launched_cons,launched_append,take_still,ih,launched_cons,Bool.false_or]

theorem run_launched (outcome : Outcome) : launched (run owner outcome).2.2 = launched outcome.2 := route_launched _ _

theorem runOrCancel_launched (outcome : Outcome × Bool) :
    launched (runOrCancel owner outcome).2.2 = launched outcome.1.2 := by
  unfold runOrCancel
  dsimp only
  split <;> exact run_launched owner outcome.1

theorem processNotice_still (notice : WidgetNotice) (authTypeList : List AuthType) :
    launched (processNotice owner notice authTypeList).2.2 = false := by
  unfold processNotice
  split
  · rfl
  · cases notice.event with
    | NOTICE_EVENT_CANCEL_AUTH =>
      dsimp only
      split <;> rfl
    | NOTICE_EVENT_RELOAD =>
      dsimp only
      split
      · split <;> rfl
      · rfl
    | NOTICE_EVENT_AUTH_WIDGET_LOADED =>
      dsimp only [widgetLoad]
      split
      · rfl
      · exact onWidgetTip_still _ _
    | NOTICE_EVENT_AUTH_WIDGET_RELEASED => exact onWidgetTip_still _ _
    | NOTICE_EVENT_PROCESS_TERMINATE => exact clearSchedule_still owner
    | NOTICE_EVENT_AUTH_SEND_TIP => exact onWidgetTip_still _ _
    | NOTICE_EVENT_COMPLETE_AUTH =>
      dsimp only
      split <;> rfl
    | _ => rfl

theorem forceStopAuth_still : launched (forceStopAuth owner).2.2 = false := by
  unfold forceStopAuth
  split
  · rfl
  · exact clearSchedule_still owner

theorem outside_still (call : OutsideCall) (env : WidgetContext.Env) (s : WidgetContext) :
    launched (WidgetContext.step s ⟨call.toCall,env⟩).2 = false := by
  cases call with
  | start => rfl
  | onStart =>
    simp only [OutsideCall.toCall,WidgetContext.step]
    split
    · exact onStart_still
    · rfl
  | onStartFailed => exact onStartFailed_still _
  | stop => exact stop_still
  | reportStopBeforeStart =>
    simp only [OutsideCall.toCall,WidgetContext.step]
    split
    · exact onStartFailed_still _
    · rfl
  | onChildAuthResult => exact onChildAuthResult_still
  | onChildAuthTip => exact onChildAuthTip_still
  | setRemoteAuthParam =>
    simp only [OutsideCall.toCall,WidgetContext.step,setRemoteAuthParam]
    split <;> rfl
  | onTerminateTimerTimeOut => exact onTerminateTimerTimeOut_still

end Routing

-- An action that brings up no widget, whatever it finds.
def Calm (action : Action) : Prop := ∀ env owner, launched (action env owner).2.2 = false

section Actions

theorem calm_of {handler : WidgetContext.Env → Owner → Outcome} {before : Owner → Owner}
    (still : ∀ env owner, launched (handler env owner).2 = false) :
    Calm fun env owner => run (before owner) (handler env owner) :=
  fun env owner => (run_launched _ _).trans (still env owner)

@[simp] theorem onGetRemoteAuthParam_calm : Calm onGetRemoteAuthParam := calm_of fun _ _ => getRemoteAuthParam_still
@[simp] theorem onStopSchedule_calm : Calm onStopSchedule := calm_of fun _ _ => endAuthAsCancel_still
@[simp] theorem onStartAuth_calm : Calm onStartAuth := calm_of fun _ _ => executeAuthList_still
@[simp] theorem onStartDirectAuth_calm : Calm onStartDirectAuth := onStartAuth_calm
@[simp] theorem onStopAuthList_calm : Calm onStopAuthList := calm_of fun _ _ => stopAuthList_still
@[simp] theorem onSuccessAuth_calm : Calm onSuccessAuth := calm_of fun _ _ => onAuthSuccess_still
@[simp] theorem onFailAuth_calm : Calm onFailAuth := calm_of fun _ _ => endWith_still _
@[simp] theorem onNaviPinAuth_calm : Calm onNaviPinAuth := calm_of fun _ _ => endWith_still _
@[simp] theorem onWidgetParaInvalid_calm : Calm onWidgetParaInvalid := calm_of fun _ _ => endWith_still _
@[simp] theorem onWidgetReloadInit_calm : Calm onWidgetReloadInit := calm_of fun _ _ => disconnectExtension_still
@[simp] theorem onWidgetRelease_calm : Calm onWidgetRelease := calm_of fun _ _ => WidgetContext.clearSchedule_still
@[simp] theorem onSendAuthResult_calm : Calm onSendAuthResult := calm_of fun _ _ => onScheduleAuthResult_still

-- Only the start of the schedule and the reload bring a widget up.
theorem transition_calm (found : transitionMap state event = some (next,action)) :
    Calm action ∨ action = onStartSchedule ∨
      (state = .S_WIDGET_RELOAD_WAITING ∧ event = .E_CANCEL_AUTH ∧ action = onWidgetReload) := by
  unfold transitionMap at found
  split at found <;> cases found <;> simp

end Actions

def reloadPara (node : WidgetScheduleNodeImpl) : WidgetRotatePara :=
  ⟨true,node.orientation,node.needRotate,node.alreadyLoad,node.rotateAuthType⟩

def NoLateLaunch (s : WidgetSession) (input : Input) : Prop :=
  launched (step s input).2 = true → s.owner.context.phase < STOPPING

-- The disconnect of a pending reload is taken up after the session has ended,
-- and nothing else keeps the widget down.
def StaleReload (s : WidgetSession) : Input → Prop
  | .scheduleInner env => s.currentState = .S_WIDGET_RELOAD_WAITING ∧ s.pendingEvents.head? = some .E_CANCEL_AUTH ∧
    STOPPING ≤ s.owner.context.phase ∧ connects env s.owner.context (reloadPara s.owner.node) = true
  | _ => False

theorem scheduleInner_launched (env : WidgetContext.Env) (s : WidgetSession) (pending : s.pendingEvents = event :: rest)
    (found : transitionMap s.currentState event = some (next,action)) :
    launched (FiniteStateMachineImpl.scheduleInner table env s).2 = launched (action env s.owner).2.2 := by
  rw [FiniteStateMachineImpl.scheduleInner_taken table env s pending found,launched_append]
  have quiet : ∀ machine : WidgetSession,
      launched (FiniteStateMachineImpl.enter table env s.currentState machine).2 = false := by
    intro machine
    unfold FiniteStateMachineImpl.enter
    split <;> rfl
  rw [quiet,Bool.or_false]

theorem step_launch (s : WidgetSession) (input : Input) : NoLateLaunch s input ↔ ¬StaleReload s input := by
  have calm (still : launched (step s input).2 = false) : NoLateLaunch s input := by
    intro launch
    rw [still] at launch
    cases launch
  cases input with
  | scheduleInner env =>
    cases pending : s.pendingEvents with
    | nil =>
      refine iff_of_true (calm ?_) ?_
      · rw [step,FiniteStateMachineImpl.scheduleInner_idle table env s pending]
        rfl
      · simp [StaleReload,pending]
    | cons event rest =>
      cases found : transitionMap s.currentState event with
      | none =>
        refine iff_of_true (calm ?_) ?_
        · rw [step,FiniteStateMachineImpl.scheduleInner_dropped table env s pending found]
          rfl
        · rintro ⟨reloading,head,_⟩
          rw [pending] at head
          cases head
          rw [reloading] at found
          cases found
      | some transition =>
        obtain ⟨next,action⟩ := transition
        have launches : launched (step s (.scheduleInner env)).2 = launched (action env s.owner).2.2 :=
          scheduleInner_launched env s pending found
        by_cases reload : s.currentState = .S_WIDGET_RELOAD_WAITING ∧ event = .E_CANCEL_AUTH
        · obtain ⟨reloading,rfl⟩ := reload
          rw [reloading] at found
          cases found
          have connected : launched (onWidgetReload env s.owner).2.2 = connects env s.owner.context (reloadPara s.owner.node) :=
            (runOrCancel_launched _ _).trans (authWidgetReload_launched env s.owner.context _ _ _ _)
          unfold NoLateLaunch
          rw [launches,connected]
          constructor
          · intro inTime ⟨_,_,ended,connect⟩
            exact absurd (inTime connect) (Nat.not_lt.mpr ended)
          · intro fresh connect
            by_contra ended
            exact fresh ⟨reloading,by rw [pending]; rfl,Nat.not_lt.mp ended,connect⟩
        · refine iff_of_true ?_ ?_
          · rcases transition_calm found with quiet | rfl | ⟨reloading,cancel,_⟩
            · exact calm (launches.trans (quiet env s.owner))
            · intro launch
              rw [launches] at launch
              exact launchWidget_early env s.owner.context ((runOrCancel_launched _ _).symm.trans launch)
            · exact absurd ⟨reloading,cancel⟩ reload
          · rintro ⟨reloading,head,_⟩
            rw [pending] at head
            exact reload ⟨reloading,Option.some.inj head⟩
  | context call env =>
    refine iff_of_true (calm ?_) not_false
    exact (run_launched _ _).trans (outside_still call env s.owner.context)
  | notice notice authTypeList => exact iff_of_true (calm (processNotice_still _ _ _)) not_false
  | forceStopAuth => exact iff_of_true (calm (forceStopAuth_still _)) not_false
  | forceStopAuthOf => exact iff_of_true (calm (clearSchedule_still _)) not_false
  | clientMoved => exact iff_of_true (calm rfl) not_false

theorem launches_in_time (context : WidgetContext) (inputs : List Input) :
    machine.Meets NoLateLaunch (create context) inputs ↔
      machine.Meets (fun s input => ¬StaleReload s input) (create context) inputs :=
  Mealy.meets_congr (m:=machine) (Q:=fun _ => True) (fun _ _ _ => trivial) (fun s input _ => step_launch s input) trivial
    inputs

-- The widget asks to be reloaded, and the caller stops the session before the
-- schedule has taken the request up.
def reloadThenStop (env : WidgetContext.Env) : List Input :=
  [.context .start env,.context .onStart env,.scheduleInner env,.notice {event:=.NOTICE_EVENT_RELOAD} [AuthType.PIN],
    .context .stop env,.scheduleInner env,.scheduleInner env]

theorem ended_session_relaunches :
    ¬machine.Meets NoLateLaunch (create (WidgetContext.create pinPara false false)) (reloadThenStop fairEnv) := by
  intro met
  have inTime := met.2.2.2.2.2.2.1
  exact absurd (inTime (by decide)) (by decide)

end WidgetSession
end UserAuth
