import UserAuth.Widget.WidgetLifecycle

namespace UserAuth
open WidgetContext

-- A session with the children it has launched and that have not reported yet.
structure WidgetChildren where
  context : WidgetContext
  live : List TaskInfo := []

namespace WidgetContext
open Phase

-- The child that the pool takes.
def Output.launchedChild (env : Env) : Output → Option TaskInfo
  | .scheduleChild para taskId => if (env.child para.authType).scheduled then some ⟨para.authType,taskId⟩ else none
  | _ => none

def launchedChildren (env : Env) (outputs : List Output) : List TaskInfo := outputs.filterMap (Output.launchedChild env)

-- OnChildAuthResult up to the moment where the child is counted off.
def childReported (s : WidgetContext) (resultCode : ResultCode) (authType : AuthType) (finalResult : Attributes) : Outcome :=
  if s.phase == RELEASED then (s,[])
  else
    let remainTimes := (finalResult.getInt32Value Attributes.ATTR_REMAIN_TIMES).getD (-1)
    let freezingTime := (finalResult.getInt32Value Attributes.ATTR_FREEZING_TIME).getD (-1)
    Mealy.andThen (s,[.reportWidgetResult resultCode authType freezingTime remainTimes]) fun s =>
      procAuthResult s resultCode authType freezingTime finalResult

theorem onChildAuthResult_reported (env : Env) (s : WidgetContext) (resultCode : ResultCode) (authType : AuthType)
    (finalResult : Attributes) : onChildAuthResult env s resultCode authType finalResult =
      Mealy.andThen (childReported s resultCode authType finalResult) fun s => onChildTerminated env s := rfl

-- What OnChildTerminated finds when a launch fails.
def errorTermination (s : WidgetContext) (launch : ChildLaunch) (authType : AuthType) : WidgetContext :=
  if launch.widgetCallback || launch.iamCallback then
    (childReported s ResultCode.GENERAL_ERROR authType Attributes.empty).1
  else s

theorem reportChildError_terminates (env : Env) (s : WidgetContext) (launch : ChildLaunch) (authType : AuthType) :
    (reportChildError env s launch authType).1 = (onChildTerminated env (errorTermination s launch authType)).1 := by
  unfold reportChildError errorTermination
  split <;> rfl

def launchTerminations (env : Env) (endAfterFirstFail : Bool) (authIntent : AuthIntent) :
    WidgetContext → List AuthType → List WidgetContext
  | _,[] => []
  | s,authType :: rest =>
    let counted := {s with activeChildCount:=s.activeChildCount + 1}
    let failed := (buildTask env counted authType endAfterFirstFail authIntent).2.isNone
    (if failed then [errorTermination counted (env.child authType) authType] else []) ++
      launchTerminations env endAfterFirstFail authIntent (launchTask env s authType endAfterFirstFail authIntent).1 rest

-- Every context that OnChildTerminated finds in the course of a call.
def terminations (s : WidgetContext) (env : Env) : Call → List WidgetContext
  | .executeAuthList authTypeList endAfterFirstFail authIntent =>
    if s.phase ≥ STOPPING then [] else launchTerminations env endAfterFirstFail authIntent s authTypeList
  | .onChildAuthResult resultCode authType finalResult => [(childReported s resultCode authType finalResult).1]
  | _ => []

end WidgetContext

namespace WidgetChildren

inductive Input where
  | call (call : Call) (env : Env)
  -- One of the live children reports.
  | result (index : Nat) (resultCode : ResultCode) (finalResult : Attributes) (env : Env)

-- Children report through their own input, and the timer does not fire.
def step (s : WidgetChildren) : Input → WidgetChildren × List Output
  | .call (.onChildAuthResult _ _ _) _ => (s,[])
  | .call .onTerminateTimerTimeOut _ => (s,[])
  | .call call env =>
    let outcome := WidgetContext.step s.context ⟨call,env⟩
    (⟨outcome.1,s.live ++ launchedChildren env outcome.2⟩,outcome.2)
  | .result index resultCode finalResult env =>
    match s.live[index]? with
    | none => (s,[])
    | some taskInfo =>
      let outcome := WidgetContext.step s.context ⟨.onChildAuthResult resultCode taskInfo.authType finalResult,env⟩
      (⟨outcome.1,s.live.eraseIdx index⟩,outcome.2)

def machine : Mealy WidgetChildren Input Output := ⟨step⟩

def terminations (s : WidgetChildren) : Input → List WidgetContext
  | .call (.onChildAuthResult _ _ _) _ => []
  | .call call env => s.context.terminations env call
  | .result index resultCode finalResult env =>
    match s.live[index]? with
    | none => []
    | some taskInfo => s.context.terminations env (.onChildAuthResult resultCode taskInfo.authType finalResult)

end WidgetChildren

namespace WidgetContext
open Phase

-- A released schedule leaves the session open only while a child is to report
-- and nothing has been delivered.
def Settled (s : WidgetContext) : Prop :=
  s.scheduleReleased = true → s.phase = RELEASED ∨ (s.phase < RESULT_DELIVERED ∧ 0 < s.activeChildCount)

-- The session is deleted without a result of its own, one having gone before.
def ReportedFirst (earlier : Prop) (outputs : List Output) : Prop :=
  ∃ before after, outputs = before ++ [.clientClearSchedule,.poolDelete] ++ after ∧ (earlier ∨ 0 < resultCount before)

def Timely (s : WidgetContext) (outcome : Outcome) : Prop :=
  s.phase ≠ RELEASED → outcome.1.phase = RELEASED →
    outcome.1.activeChildCount = 0 ∨ ReportedFirst (RESULT_DELIVERED ≤ s.phase) outcome.2

def Output.isIdle : Output → Bool
  | .onResult _ _ | .poolDelete | .scheduleChild _ _ => false
  | _ => true

def Idle (outputs : List Output) : Prop := ∀ output ∈ outputs, output.isIdle = true

-- What a stretch of code that launches no child may do.
structure Paced (s : WidgetContext) (outcome : Outcome) : Prop extends Counts s outcome where
  count : outcome.1.activeChildCount = s.activeChildCount
  released : outcome.1.scheduleReleased = s.scheduleReleased
  childless : ∀ env, launchedChildren env outcome.2 = []
  timely : Timely s outcome

structure Tallies (s : WidgetContext) (outcome : Outcome) : Prop extends Paced s outcome where
  settled : Settled s → Settled outcome.1

theorem launchedChildren_append (env : Env) (xs ys : List Output) :
    launchedChildren env (xs ++ ys) = launchedChildren env xs ++ launchedChildren env ys := List.filterMap_append

section Idle

@[simp] theorem idle_nil : Idle [] := by simp [Idle]

@[simp] theorem idle_cons : Idle (output :: rest) ↔ output.isIdle = true ∧ Idle rest := List.forall_mem_cons

theorem Idle.append (left : Idle xs) (right : Idle ys) : Idle (xs ++ ys) := List.forall_mem_append.mpr ⟨left,right⟩

theorem Idle.given {outputs : List Output} (idle : Idle outputs) (condition : Prop) [Decidable condition] :
    Idle (if condition then outputs else []) := by
  split
  · exact idle
  · exact idle_nil

theorem Idle.quiet (idle : Idle outputs) : Quiet outputs := by
  apply quiet_of_forall
  intro output member
  have quiet := idle output member
  cases output <;> first | exact ⟨rfl,rfl⟩ | cases quiet

theorem Idle.childless (idle : Idle outputs) (env : Env) : launchedChildren env outputs = [] := by
  apply List.filterMap_eq_nil_iff.mpr
  intro output member
  have quiet := idle output member
  cases output <;> first | rfl | cases quiet

theorem delivery_childless (s : WidgetContext) (resultCode : ResultCode) (attr : Attributes) (env : Env) :
    launchedChildren env (deliverResultLocked s resultCode attr) = [] := by
  unfold deliverResultLocked
  split <;> rfl

end Idle

theorem Timely.andThen {first : Outcome} {next : WidgetContext → Outcome} (one : Timely s first)
    (counts : Counts s first) (two : Timely first.1 (next first.1))
    (stays : first.1.activeChildCount = 0 → (next first.1).1.activeChildCount = 0) :
    Timely s (Mealy.andThen first next) := by
  intro live done
  by_cases already : first.1.phase = RELEASED
  · rcases one live already with zero | ⟨before,after,split,told⟩
    · exact .inl (stays zero)
    · refine .inr ⟨before,after ++ (next first.1).2,?_,told⟩
      simp only [Mealy.andThen,split,List.append_assoc]
  · rcases two already done with zero | ⟨before,after,split,told⟩
    · exact .inl zero
    · refine .inr ⟨first.2 ++ before,after,?_,?_⟩
      · simp only [Mealy.andThen,split,List.append_assoc]
      · have delivered := counts.results
        rw [resultCount_append]
        rcases told with reached | some
        · have one : first.1.phase.delivered = 1 := if_pos reached
          by_cases early : RESULT_DELIVERED ≤ s.phase
          · exact .inl early
          · have none : s.phase.delivered = 0 := if_neg early
            right
            omega
        · right
          omega

namespace Paced

-- Only fields that the session's end does not read change.
theorem still (phase : next.phase = s.phase) (count : next.activeChildCount = s.activeChildCount)
    (released : next.scheduleReleased = s.scheduleReleased) (idle : Idle outputs) : Paced s (next,outputs) := by
  refine ⟨⟨Nat.le_of_eq (congrArg Phase.rank phase.symm),?_,?_⟩,count,released,idle.childless,?_⟩
  · simp [idle.quiet.results,phase]
  · simp [idle.quiet.deletes,phase]
  · intro live done
    exact absurd (phase.symm.trans done) live

theorem andThen {first : Outcome} {next : WidgetContext → Outcome} (one : Paced s first)
    (two : Paced first.1 (next first.1)) : Paced s (Mealy.andThen first next) := by
  refine ⟨one.toCounts.andThen two.toCounts,two.count.trans one.count,two.released.trans one.released,?_,?_⟩
  · intro env
    simp only [Mealy.andThen,launchedChildren_append,one.childless,two.childless,List.append_nil]
  · exact one.timely.andThen one.toCounts two.timely two.count.trans

end Paced

-- Neither the phase nor the counting changes, and nothing of note goes out.
structure Still (s : WidgetContext) (outcome : Outcome) : Prop where
  phase : outcome.1.phase = s.phase
  count : outcome.1.activeChildCount = s.activeChildCount
  released : outcome.1.scheduleReleased = s.scheduleReleased
  idle : Idle outcome.2

theorem Still.none (s : WidgetContext) : Still s (s,[]) := ⟨rfl,rfl,rfl,idle_nil⟩

theorem Still.andThen {first : Outcome} {next : WidgetContext → Outcome} (one : Still s first)
    (two : Still first.1 (next first.1)) : Still s (Mealy.andThen first next) :=
  ⟨two.phase.trans one.phase,two.count.trans one.count,two.released.trans one.released,one.idle.append two.idle⟩

namespace Tallies

theorem still (phase : next.phase = s.phase) (count : next.activeChildCount = s.activeChildCount)
    (released : next.scheduleReleased = s.scheduleReleased) (idle : Idle outputs) : Tallies s (next,outputs) := by
  refine ⟨.still phase count released idle,?_⟩
  intro settled done
  rw [phase,count]
  exact settled (released ▸ done)

theorem of_still (same : Still s outcome) : Tallies s outcome := .still same.phase same.count same.released same.idle

theorem none (s : WidgetContext) : Tallies s (s,[]) := .of_still (.none s)

theorem andThen {first : Outcome} {next : WidgetContext → Outcome} (one : Tallies s first)
    (two : Tallies first.1 (next first.1)) : Tallies s (Mealy.andThen first next) :=
  ⟨one.toPaced.andThen two.toPaced,fun settled => two.settled (one.settled settled)⟩

theorem after (one : Tallies s (middle,[])) (two : Tallies middle outcome) : Tallies s outcome := by
  have both : Tallies s (Mealy.andThen (middle,[]) fun _ => outcome) := one.andThen two
  exact both

theorem prefixed (idle : Idle xs) (tallies : Tallies s (next,ys)) : Tallies s (next,xs ++ ys) := by
  have first : Tallies s (s,xs) := .still rfl rfl rfl idle
  have both : Tallies s (Mealy.andThen (s,xs) fun _ => (next,ys)) := first.andThen tallies
  exact both

theorem advance (before : s.phase < next) (early : next < RESULT_DELIVERED) :
    Tallies s ({s with phase:=next},[]) := by
  have moves : Moves .any s ({s with phase:=next},[]) := .advance before early
  refine ⟨⟨moves.toCounts,rfl,rfl,fun _ => rfl,?_⟩,?_⟩
  · intro _ done
    simp only at done
    rw [done] at early
    exact absurd early (by decide)
  · intro settled released
    rcases settled released with done | ⟨_,some⟩
    · rw [done] at before
      exact absurd before (Nat.not_lt.mpr (rank_le_four next))
    · exact .inr ⟨early,some⟩

end Tallies

section Ending
variable {env : Env} {s : WidgetContext}

theorem startOnTerminateTimer_keeps : (startOnTerminateTimer env s).phase = s.phase ∧
    (startOnTerminateTimer env s).activeChildCount = s.activeChildCount ∧
    (startOnTerminateTimer env s).scheduleReleased = s.scheduleReleased := by
  unfold startOnTerminateTimer
  split <;> exact ⟨rfl,rfl,rfl⟩

theorem endLocked_paced (settles : s.activeChildCount = 0 ∨ RESULT_DELIVERED ≤ s.phase) : Paced s (endLocked s) := by
  by_cases done : s.phase = RELEASED
  · rw [endLocked_done done]
    exact .still rfl rfl rfl idle_nil
  · have counts : Counts s (endLocked s) := endLocked_counts
    rw [endLocked_open done] at counts ⊢
    refine ⟨counts,rfl,rfl,?_,?_⟩
    · intro env
      simp only [launchedChildren_append]
      split
      · rw [delivery_childless]
        rfl
      · rfl
    · intro _ _
      rcases settles with zero | delivered
      · exact .inl zero
      · have late : ¬s.phase < RESULT_DELIVERED := Nat.not_lt.mpr delivered
        refine .inr ⟨[],[],?_,.inl delivered⟩
        rw [if_neg late]
        rfl

theorem tryEndLocked_settled (env : Env) (s : WidgetContext) : Settled (tryEndLocked env s).1 := by
  unfold tryEndLocked
  split
  · rename_i idle
    simp only [Bool.or_eq_true,beq_iff_eq,Bool.not_eq_true'] at idle
    intro released
    have kept : s.scheduleReleased = true := released
    exact .inl (idle.resolve_right (by simp [kept]))
  · split
    · rename_i waits
      simp only [Bool.and_eq_true,decide_eq_true_eq] at waits
      intro _
      obtain ⟨phase,count,_⟩ := @startOnTerminateTimer_keeps env s
      rw [phase,count]
      exact .inr ⟨waits.2,waits.1⟩
    · exact fun _ => .inl endLocked_released

theorem tryEndLocked_paced : Paced s (tryEndLocked env s) := by
  unfold tryEndLocked
  split
  · exact .still rfl rfl rfl idle_nil
  · split
    · obtain ⟨phase,count,released⟩ := @startOnTerminateTimer_keeps env s
      exact .still phase count released idle_nil
    · rename_i ends
      apply endLocked_paced
      simp only [Bool.and_eq_true,decide_eq_true_eq,not_and_or] at ends
      exact ends.imp Nat.eq_zero_of_not_pos Nat.not_lt.mp

theorem onStartFailed_tallies (errorCode : ResultCode) : Tallies s (onStartFailed s errorCode) := by
  by_cases before : s.phase < RESULT_DELIVERED
  · have opened : onStartFailed s errorCode =
        Mealy.andThen ({s with phase:=RESULT_DELIVERED},deliverResultLocked s errorCode Attributes.empty) endLocked := by
      rw [onStartFailed,advance_taken before]
      rfl
    rw [opened]
    have delivers : Paced s ({s with phase:=RESULT_DELIVERED},deliverResultLocked s errorCode Attributes.empty) :=
      ⟨delivery_counts before rfl s errorCode _,rfl,rfl,delivery_childless s errorCode _,fun _ done => nomatch done⟩
    exact ⟨delivers.andThen (endLocked_paced (.inr (Nat.le_refl _))),fun _ _ => .inl endLocked_released⟩
  · rw [onStartFailed,advance_refused (Nat.not_lt.mp before)]
    exact .none s

theorem disconnectExtension_tallies : Tallies s (disconnectExtension env s) := by
  have stop : Idle (if s.schedule then [Output.schedule .stopSchedule] else []) := .given (by simp [Output.isIdle]) _
  unfold disconnectExtension
  dsimp only
  split
  · exact .still rfl rfl rfl (stop.append (.given (by simp [Output.isIdle]) _))
  · split
    · exact .still rfl rfl rfl stop
    · exact .still rfl rfl rfl (stop.append (by simp [Output.isIdle]))

theorem stopAllRunTask_tallies (resultCode : ResultCode) : Tallies s (stopAllRunTask env s resultCode) := by
  have cancels : Idle (s.runTaskInfoList.map fun taskInfo => Output.poolCancel taskInfo.taskId) := by
    intro output member
    obtain ⟨_,_,rfl⟩ := List.mem_map.mp member
    rfl
  have cleared : Tallies s ({s with runTaskInfoList:=[]},_) := .still rfl rfl rfl cancels
  unfold stopAllRunTask
  apply cleared.andThen
  split
  · exact disconnectExtension_tallies
  · exact .none _

theorem deliverEndLocked_paced (resultCode : ResultCode) : Paced s (deliverEndLocked env s resultCode) := by
  by_cases before : s.phase < RESULT_DELIVERED
  · rw [deliverEndLocked_open env before]
    obtain ⟨phase,count,released⟩ := @startOnTerminateTimer_keeps env {s with phase:=RESULT_DELIVERED}
    refine ⟨delivery_counts before phase s _ _,count,released,delivery_childless s _ _,?_⟩
    intro _ done
    exact nomatch phase.symm.trans done
  · rw [deliverEndLocked_ended env (Nat.not_lt.mp before)]
    exact .still rfl rfl rfl idle_nil

theorem endWith_tallies (resultCode : ResultCode) : Tallies s (endWith env s resultCode) := by
  by_cases before : s.phase < STOPPING
  · rw [endWith_open env before]
    refine (Tallies.advance before (by decide)).after ⟨?_,fun _ => tryEndLocked_settled _ _⟩
    exact (stopAllRunTask_tallies resultCode).toPaced.andThen
      ((deliverEndLocked_paced resultCode).andThen tryEndLocked_paced)
  · rw [endWith_ended env (Nat.not_lt.mp before)]
    exact .none s

end Ending

section Launching
variable {env : Env} {s : WidgetContext}

theorem lockedOut_tallies : Tallies s ((lockedOut s).1,[]) := by
  unfold lockedOut
  split
  · exact .still rfl rfl rfl idle_nil
  · exact .none s

theorem showWidget_tallies (widgetRotatePara : WidgetRotatePara) : Tallies s (showWidget env s widgetRotatePara).1 := by
  unfold showWidget
  split
  · exact .none s
  · split
    · exact .none s
    · split
      · exact .still rfl rfl rfl (.given (by simp [Output.isIdle]) _)
      · unfold connectExtensionAbility
        split
        · exact .none s
        · exact .still rfl rfl rfl (by simp [Output.isIdle])

theorem connectExtension_tallies (widgetRotatePara : WidgetRotatePara) :
    Tallies s (connectExtension env s widgetRotatePara).1 := by
  unfold connectExtension
  dsimp only
  generalize (if widgetRotatePara.isReload = true then refreshAuthProfiles env s.para.authProfileMap s.para.authTypeList
    else (s.para.authProfileMap,true)) = refreshed
  have stored : Tallies s (storeProfiles s refreshed.1,[]) := .still rfl rfl rfl idle_nil
  split
  · exact stored
  · refine stored.after (lockedOut_tallies.after ?_)
    split
    · exact endWith_tallies _
    · split
      · exact endWith_tallies _
      · exact showWidget_tallies widgetRotatePara

theorem launchWidget_tallies : Tallies s (launchWidget env s).1 := by
  unfold launchWidget
  split
  · exact .none s
  · exact .prefixed (.given (by simp [Output.isIdle]) _) (connectExtension_tallies {})

theorem authWidgetReload_tallies (orientation needRotate alreadyLoad : UInt32) (rotateAuthType : AuthType) :
    Tallies s (authWidgetReload env s orientation needRotate alreadyLoad rotateAuthType).1 := by
  have loaded : Tallies s (if alreadyLoad != 0 then {s with widgetAlreadyLoad:=1} else s,[]) := by
    split
    · exact .still rfl rfl rfl idle_nil
    · exact .none s
  unfold authWidgetReload
  dsimp only [isValidRotate]
  exact loaded.after (connectExtension_tallies _)

theorem getRemoteAuthParam_idle : Idle (getRemoteAuthParam s) := .given (by simp [Output.isIdle]) _

end Launching

section Children
variable {env : Env} {s : WidgetContext}

theorem onScheduleAuthTip_idle (authType : AuthType) (tipCode : Int32) : Idle (onScheduleAuthTip authType tipCode) := by
  unfold onScheduleAuthTip
  split <;> simp [Output.isIdle]

theorem skipFrozen_quiets (idle : Idle elsewhere) : Still s (skipFrozen s authType elsewhere) := by
  unfold skipFrozen
  split
  · exact ⟨rfl,rfl,rfl,by simp [Output.isIdle]⟩
  · split
    · exact ⟨rfl,rfl,rfl,by simp [Output.isIdle]⟩
    · exact ⟨rfl,rfl,rfl,idle⟩

theorem procAuthResult_quiets : Still s (procAuthResult s resultCode authType freezingTime finalResult) := by
  unfold procAuthResult
  split
  · exact .none s
  · split
    · exact ⟨rfl,rfl,rfl,by split <;> simp [Output.isIdle]⟩
    · dsimp only
      split
      · exact ⟨rfl,rfl,rfl,by simp [Output.isIdle]⟩
      · have told : Still s (setLatestError s resultCode,_) := ⟨rfl,rfl,rfl,
          Idle.given (onScheduleAuthTip_idle authType (getAuthTipCode resultCode freezingTime))
            ((resultCode != ResultCode.CANCELED) = true)⟩
        apply told.andThen
        dsimp only
        split
        · exact skipFrozen_quiets (by simp [Output.isIdle])
        · exact ⟨rfl,rfl,rfl,by simp [Output.isIdle]⟩

theorem childReported_quiets (s : WidgetContext) (resultCode : ResultCode) (authType : AuthType) (finalResult : Attributes) :
    Still s (childReported s resultCode authType finalResult) := by
  unfold childReported
  split
  · exact .none s
  · have reported : Still s (s,[Output.reportWidgetResult resultCode authType
        ((finalResult.getInt32Value Attributes.ATTR_FREEZING_TIME).getD (-1))
        ((finalResult.getInt32Value Attributes.ATTR_REMAIN_TIMES).getD (-1))]) :=
      ⟨rfl,rfl,rfl,by simp [Output.isIdle]⟩
    exact reported.andThen procAuthResult_quiets

theorem onChildAuthTip_quiets : Still s (onChildAuthTip env s tipType authType extraInfo) := by
  unfold onChildAuthTip
  split
  · exact .none s
  · rename_i tipInfo _
    have reported : Still s (s,[Output.reportWidgetTip tipType authType tipInfo]) :=
      ⟨rfl,rfl,rfl,by simp [Output.isIdle]⟩
    apply reported.andThen
    unfold procAuthTipInfo
    split
    · exact .none s
    · split
      · exact .none s
      · rename_i resultCode freezingTime _
        split
        · exact .none s
        · have told : Still s (s,_) := ⟨rfl,rfl,rfl,
            Idle.given (onScheduleAuthTip_idle authType (getAuthTipCode resultCode freezingTime))
              ((resultCode != ResultCode.CANCELED) = true)⟩
          apply told.andThen
          dsimp only
          split
          · exact skipFrozen_quiets idle_nil
          · exact .none _

theorem stopAuthList_tallies (authTypeList : List AuthType) : Tallies s (stopAuthList s authTypeList) := by
  induction authTypeList generalizing s with
  | nil => exact .none s
  | cons authType rest ih =>
    unfold stopAuthList
    split
    · exact ih
    · rename_i taskInfo _
      have cancelled : Tallies s ({s with runTaskInfoList:=s.runTaskInfoList.erase taskInfo},
        [Output.poolCancel taskInfo.taskId]) := .still rfl rfl rfl (by simp [Output.isIdle])
      exact cancelled.andThen ih

end Children

section Events
variable {env : Env} {s : WidgetContext}

theorem onAuthSuccess_tallies : Tallies s (onAuthSuccess env s) := by
  unfold onAuthSuccess
  split <;> exact endWith_tallies _

theorem endAuthAsCancel_tallies : Tallies s (endAuthAsCancel env s) := by
  unfold endAuthAsCancel
  split
  · exact endWith_tallies _
  · split
    · exact .none s
    · exact endWith_tallies _

theorem onScheduleAuthResult_tallies (resultCode : ResultCode) (authType : AuthType) (token : Bytes) :
    Tallies s (onScheduleAuthResult env s resultCode authType token) := by
  have stored : Tallies s ((scheduleResultEnding env s resultCode authType token).1,[]) := by
    unfold scheduleResultEnding
    split
    · exact .none s
    · cases env.enrolledState <;> exact .still rfl rfl rfl idle_nil
  rw [onScheduleAuthResult_ends]
  exact stored.after (endWith_tallies _)

theorem setRemoteAuthParam_tallies (widgetParam : WidgetParamInner) (modalCallback : Bool) :
    Tallies s (setRemoteAuthParam s widgetParam modalCallback) :=
  .still rfl rfl rfl (.given (by simp [Output.isIdle]) _)

theorem onStart_tallies : Tallies s (onStart env s).1 := by
  unfold onStart
  dsimp only
  split
  · exact .still rfl rfl rfl idle_nil
  · split
    · exact .still rfl rfl rfl idle_nil
    · refine .still rfl rfl rfl (idle_cons.mpr ⟨rfl,?_⟩)
      split
      · simp [Output.isIdle]
      · split <;> simp [Output.isIdle]

theorem start_tallies : Tallies s ((WidgetContext.start s).1,[]) := by
  unfold WidgetContext.start
  split
  · split
    · exact .none s
    · exact .still rfl rfl rfl idle_nil
  · rename_i fresh
    have fresh : s.phase = NOT_STARTED := by simpa using fresh
    have before : s.phase < RUNNING := by simp [fresh]
    rw [advance_taken before]
    exact (Tallies.advance before (by decide)).after (.still rfl rfl rfl idle_nil)

theorem stop_tallies : Tallies s (stop env s) := by
  unfold stop
  split
  · rename_i fresh
    have fresh : s.phase = NOT_STARTED := by simpa using fresh
    have before : s.phase < STOPPING := by simp [fresh]
    rw [advance_taken before]
    exact (Tallies.advance before (by decide)).after (.still rfl rfl rfl idle_nil)
  · exact (endWith_tallies _).andThen (.still rfl rfl rfl (by simp [Output.isIdle]))

end Events

-- Calls that neither launch a child nor count one off, and do not release the
-- schedule.
def Call.uncounted : Call → Bool
  | .executeAuthList _ _ _ | .onChildAuthResult _ _ _ | .onTerminateTimerTimeOut | .clearSchedule => false
  | _ => true

theorem step_tallies (s : WidgetContext) (env : Env) (uncounted : call.uncounted = true) :
    Tallies s (WidgetContext.step s ⟨call,env⟩) := by
  cases call with
  | start => exact start_tallies
  | onStart =>
    simp only [WidgetContext.step]
    split
    · have begun : Tallies s ({s with starting:=false},[]) := .still rfl rfl rfl idle_nil
      exact begun.after onStart_tallies
    · exact .none s
  | onStartFailed errorCode => exact onStartFailed_tallies errorCode
  | stop => exact stop_tallies
  | reportStopBeforeStart =>
    simp only [WidgetContext.step]
    split
    · have begun : Tallies s ({s with stoppedBeforeStart:=false},[]) := .still rfl rfl rfl idle_nil
      exact begun.after (onStartFailed_tallies _)
    · exact .none s
  | launchWidget => exact launchWidget_tallies
  | stopAuthList authTypeList => exact stopAuthList_tallies authTypeList
  | onAuthSuccess => exact onAuthSuccess_tallies
  | onAuthFail => exact endWith_tallies _
  | endAuthAsCancel => exact endAuthAsCancel_tallies
  | endAuthAsNaviPin => exact endWith_tallies _
  | endAuthAsWidgetParaInvalid => exact endWith_tallies _
  | onScheduleAuthTip authType tipCode => exact .still rfl rfl rfl (onScheduleAuthTip_idle authType tipCode)
  | onScheduleAuthResult resultCode authType token => exact onScheduleAuthResult_tallies resultCode authType token
  | authWidgetReloadInit => exact disconnectExtension_tallies
  | authWidgetReload orientation needRotate alreadyLoad rotateAuthType => exact authWidgetReload_tallies _ _ _ _
  | getRemoteAuthParam => exact .still rfl rfl rfl getRemoteAuthParam_idle
  | onChildAuthTip => exact .of_still onChildAuthTip_quiets
  | setRemoteAuthParam widgetParam modalCallback => exact setRemoteAuthParam_tallies widgetParam modalCallback
  | executeAuthList => cases uncounted
  | onChildAuthResult => cases uncounted
  | onTerminateTimerTimeOut => cases uncounted
  | clearSchedule => cases uncounted

section Counting
variable {env : Env} {s : WidgetContext}

-- Counting a child off that is not the last one settles nothing, and neither
-- does the last one of a schedule still in use.
theorem onChildTerminated_early (early : s.scheduleReleased = true → 1 < s.activeChildCount) :
    onChildTerminated env s = ({s with activeChildCount:=s.activeChildCount - 1},[]) := by
  have counted : (if s.activeChildCount > 0 then {s with activeChildCount:=s.activeChildCount - 1} else s) =
      {s with activeChildCount:=s.activeChildCount - 1} := by
    split
    · rfl
    · rename_i none
      have zero : s.activeChildCount = 0 := by omega
      cases s
      simp_all
  unfold onChildTerminated
  rw [counted]
  dsimp only
  split
  · rfl
  · rename_i last
    have unreleased : s.scheduleReleased = false := by
      by_contra released
      have more := early (by simpa using released)
      have last : s.activeChildCount - 1 = 0 := by simpa using last
      omega
    unfold tryEndLocked
    simp [unreleased]

variable (env) in
theorem onChildTerminated_counts (some : 0 < s.activeChildCount) :
    Paced {s with activeChildCount:=s.activeChildCount - 1} (onChildTerminated env s) ∧
      (Settled s → Settled (onChildTerminated env s).1) := by
  unfold onChildTerminated
  rw [if_pos some]
  dsimp only
  split
  · rename_i more
    refine ⟨.still rfl rfl rfl idle_nil,fun settled released => ?_⟩
    have left : 0 < s.activeChildCount - 1 := Nat.pos_of_ne_zero (by simpa using more)
    exact (settled released).imp id fun waits => ⟨waits.1,left⟩
  · exact ⟨tryEndLocked_paced,fun _ => tryEndLocked_settled _ _⟩

variable (env) in
theorem childResult_counts (resultCode : ResultCode) (authType : AuthType) (finalResult : Attributes)
    (some : 0 < s.activeChildCount) :
    let outcome := WidgetContext.step s ⟨.onChildAuthResult resultCode authType finalResult,env⟩
    outcome.1.activeChildCount + 1 = s.activeChildCount ∧ Timely s outcome ∧ (Settled s → Settled outcome.1) := by
  have reported := childReported_quiets s resultCode authType finalResult
  have counted : 0 < (childReported s resultCode authType finalResult).1.activeChildCount := reported.count ▸ some
  obtain ⟨paced,settles⟩ := onChildTerminated_counts env counted
  refine ⟨?_,?_,fun settled => settles ((Tallies.of_still reported).settled settled)⟩
  · have count := reported.count
    have last : (onChildTerminated env (childReported s resultCode authType finalResult).1).1.activeChildCount =
      (childReported s resultCode authType finalResult).1.activeChildCount - 1 := paced.count
    change (onChildTerminated env (childReported s resultCode authType finalResult).1).1.activeChildCount + 1 = _
    omega
  · have second : Timely (childReported s resultCode authType finalResult).1
      (onChildTerminated env (childReported s resultCode authType finalResult).1) := paced.timely
    have first := Tallies.of_still reported
    exact first.timely.andThen first.toCounts second fun zero => absurd zero (Nat.ne_of_gt counted)

-- What a launch may do: children are counted as the pool takes them, and the
-- session does not end.
structure Launches (env : Env) (s : WidgetContext) (outcome : Outcome) : Prop where
  phase : outcome.1.phase = s.phase
  released : outcome.1.scheduleReleased = s.scheduleReleased
  count : outcome.1.activeChildCount = s.activeChildCount + (launchedChildren env outcome.2).length

theorem Launches.andThen {first : Outcome} {next : WidgetContext → Outcome} (one : Launches env s first)
    (two : Launches env first.1 (next first.1)) : Launches env s (Mealy.andThen first next) := by
  refine ⟨two.phase.trans one.phase,two.released.trans one.released,?_⟩
  simp only [Mealy.andThen,launchedChildren_append,List.length_append]
  rw [two.count,one.count,Nat.add_assoc]

def Counting (s : WidgetContext) : Prop := s.scheduleReleased = true → 0 < s.activeChildCount

variable (env) in
theorem onChildTerminated_launches (counting : Counting s) (phase : t.phase = s.phase)
    (released : t.scheduleReleased = s.scheduleReleased) (count : t.activeChildCount = s.activeChildCount + 1) :
    Launches env s (onChildTerminated env t) := by
  have early : t.scheduleReleased = true → 1 < t.activeChildCount := by
    intro done
    have some := counting (released ▸ done)
    omega
  rw [onChildTerminated_early early]
  refine ⟨phase,released,?_⟩
  change t.activeChildCount - 1 = s.activeChildCount
  omega

variable (env) in
theorem reportChildError_launches (launch : ChildLaunch) (authType : AuthType) (counting : Counting s) :
    Launches env s (reportChildError env {s with activeChildCount:=s.activeChildCount + 1} launch authType) := by
  unfold reportChildError
  split
  · have reported := childReported_quiets {s with activeChildCount:=s.activeChildCount + 1} ResultCode.GENERAL_ERROR authType
      Attributes.empty
    have ended := onChildTerminated_launches env counting reported.phase reported.released reported.count
    rw [onChildAuthResult_reported]
    refine ⟨ended.phase,ended.released,?_⟩
    rw [Mealy.andThen,launchedChildren_append,reported.idle.childless]
    exact ended.count
  · exact onChildTerminated_launches env counting rfl rfl rfl

variable (env) in
theorem buildTask_launches (authType : AuthType) (endAfterFirstFail : Bool) (authIntent : AuthIntent)
    (counting : Counting s) :
    Launches env s (buildTask env {s with activeChildCount:=s.activeChildCount + 1} authType endAfterFirstFail authIntent).1 := by
  unfold buildTask
  dsimp only
  split
  · exact reportChildError_launches env _ _ counting
  · split
    · exact reportChildError_launches env _ _ counting
    · rename_i taskId _
      split
      · rename_i refused
        have unscheduled : (env.child authType).scheduled = false := by simpa using refused
        have failed := reportChildError_launches env (env.child authType) authType counting
        refine ⟨failed.phase,failed.released,?_⟩
        have none : launchedChildren env [Output.scheduleChild (buildAuthenticationPara env
            {s with activeChildCount:=s.activeChildCount + 1} authType endAfterFirstFail authIntent) taskId] = [] := by
          simp [launchedChildren,Output.launchedChild,buildAuthenticationPara,unscheduled]
        rw [Mealy.andThen,launchedChildren_append,none]
        exact failed.count
      · rename_i taken
        have scheduled : (env.child authType).scheduled = true := by simpa using taken
        refine ⟨rfl,rfl,?_⟩
        simp [launchedChildren,Output.launchedChild,buildAuthenticationPara,scheduled]

variable (env) in
theorem launchTask_launches (authType : AuthType) (endAfterFirstFail : Bool) (authIntent : AuthIntent)
    (counting : Counting s) : Launches env s (launchTask env s authType endAfterFirstFail authIntent) := by
  have built := buildTask_launches env authType endAfterFirstFail authIntent counting
  unfold launchTask
  dsimp only
  split
  · exact built
  · refine built.andThen ⟨?_,?_,?_⟩
    · split <;> rfl
    · split <;> rfl
    · split <;> rfl

theorem launchTasks_launches (endAfterFirstFail : Bool) (authIntent : AuthIntent) (authTypeList : List AuthType)
    (counting : Counting s) : Launches env s (launchTasks env s endAfterFirstFail authIntent authTypeList) := by
  induction authTypeList generalizing s with
  | nil => exact ⟨rfl,rfl,rfl⟩
  | cons authType rest ih =>
    have launched := launchTask_launches env authType endAfterFirstFail authIntent counting
    refine launched.andThen (ih fun released => ?_)
    have some := counting (launched.released ▸ released)
    have counted := launched.count
    omega

variable (env) in
theorem executeAuthList_launches (authTypeList : List AuthType) (endAfterFirstFail : Bool) (authIntent : AuthIntent)
    (settled : Settled s) : Launches env s (executeAuthList env s authTypeList endAfterFirstFail authIntent) := by
  unfold executeAuthList
  split
  · exact ⟨rfl,rfl,rfl⟩
  · rename_i live
    have early : s.phase < STOPPING := Nat.not_le.mp live
    apply launchTasks_launches
    intro released
    rcases settled released with done | ⟨_,some⟩
    · rw [done] at early
      exact absurd early (by decide)
    · exact some

theorem Launches.settled {outcome : Outcome} (launches : Launches env s outcome) (settled : Settled s) :
    Settled outcome.1 := by
  intro released
  rw [launches.phase]
  have counted := launches.count
  exact (settled (launches.released ▸ released)).imp id fun waits => ⟨waits.1,by omega⟩

theorem launchTerminations_counted (endAfterFirstFail : Bool) (authIntent : AuthIntent) (authTypeList : List AuthType)
    (member : found ∈ launchTerminations env endAfterFirstFail authIntent s authTypeList) : 0 < found.activeChildCount := by
  induction authTypeList generalizing s with
  | nil => cases member
  | cons authType rest ih =>
    rcases List.mem_append.mp member with first | later
    · split at first
      · obtain rfl := List.mem_singleton.mp first
        unfold errorTermination
        split
        · rw [(childReported_quiets _ _ _ _).count]
          exact Nat.succ_pos _
        · exact Nat.succ_pos _
      · cases first
    · exact ih later

end Counting
end WidgetContext

namespace WidgetChildren
open Phase

-- The counter is the number of live children, and a released schedule is
-- waiting for one of them.
structure Counted (s : WidgetChildren) (told : List Output) : Prop where
  count : s.context.activeChildCount = s.live.length
  settled : WidgetContext.Settled s.context
  delivered : resultCount told = s.context.phase.delivered

structure Accounts (s : WidgetChildren) (next : WidgetChildren × List Output) : Prop where
  count : s.context.activeChildCount = s.live.length → next.1.context.activeChildCount = next.1.live.length
  settled : WidgetContext.Settled s.context → WidgetContext.Settled next.1.context
  results : resultCount next.2 + s.context.phase.delivered = next.1.context.phase.delivered
  timely : Timely s.context (next.1.context,next.2)

section Steps
variable {s : WidgetChildren}

theorem accounts_none (s : WidgetChildren) : Accounts s (s,[]) :=
  ⟨id,id,Nat.zero_add _,fun live done => absurd done live⟩

theorem step_results (s : WidgetContext) (input : WidgetContext.Input) :
    resultCount (WidgetContext.step s input).2 + s.phase.delivered = (WidgetContext.step s input).1.phase.delivered := by
  have moves : Moves .any s (WidgetContext.step s input) := step_moves s input fun _ _ _ => trivial
  exact moves.results

theorem uncounted_accounts (env : Env) (uncounted : call.uncounted = true) : Accounts s (step s (.call call env)) := by
  have tallies := step_tallies s.context env uncounted
  have moved : step s (.call call env) =
      (⟨(WidgetContext.step s.context ⟨call,env⟩).1,
        s.live ++ launchedChildren env (WidgetContext.step s.context ⟨call,env⟩).2⟩,
        (WidgetContext.step s.context ⟨call,env⟩).2) := by
    cases call <;> first | rfl | cases uncounted
  rw [moved]
  refine ⟨?_,tallies.settled,step_results _ _,tallies.timely⟩
  intro count
  rw [tallies.childless,List.append_nil]
  exact tallies.count.trans count

theorem clearSchedule_accounts (env : Env) : Accounts s (step s (.call .clearSchedule env)) := by
  have paced : Paced s.context (clearSchedule env s.context) ∨
      Paced {s.context with scheduleReleased:=true} (clearSchedule env s.context) := by
    unfold clearSchedule
    split
    · exact .inl (.still rfl rfl rfl idle_nil)
    · exact .inr tryEndLocked_paced
  have settles : WidgetContext.Settled s.context → WidgetContext.Settled (clearSchedule env s.context).1 := by
    unfold clearSchedule
    split
    · exact id
    · exact fun _ => tryEndLocked_settled env _
  have results := step_results s.context ⟨.clearSchedule,env⟩
  have childless : launchedChildren env (clearSchedule env s.context).2 = [] := paced.elim (·.childless env) (·.childless env)
  refine ⟨?_,settles,results,paced.elim (·.timely) (·.timely)⟩
  intro count
  have counted : (clearSchedule env s.context).1.activeChildCount = s.context.activeChildCount :=
    paced.elim (·.count) (·.count)
  change _ = (s.live ++ launchedChildren env (clearSchedule env s.context).2).length
  rw [childless,List.append_nil]
  exact counted.trans count

theorem executeAuthList_accounts (env : Env) (authTypeList : List AuthType) (endAfterFirstFail : Bool)
    (authIntent : AuthIntent) (settled : WidgetContext.Settled s.context) :
    Accounts s (step s (.call (.executeAuthList authTypeList endAfterFirstFail authIntent) env)) := by
  have launches := executeAuthList_launches env authTypeList endAfterFirstFail authIntent settled
  refine ⟨?_,launches.settled,step_results s.context ⟨.executeAuthList authTypeList endAfterFirstFail authIntent,env⟩,?_⟩
  · intro count
    have counted := launches.count
    rw [count] at counted
    exact counted.trans List.length_append.symm
  · intro live done
    exact absurd (launches.phase.symm.trans done) live

theorem result_accounts (index : Nat) (resultCode : ResultCode) (finalResult : Attributes) (env : Env)
    (count : s.context.activeChildCount = s.live.length) :
    Accounts s (step s (.result index resultCode finalResult env)) := by
  cases found : s.live[index]? with
  | none =>
    have idle : step s (.result index resultCode finalResult env) = (s,[]) := by simp [step,found]
    rw [idle]
    exact accounts_none s
  | some taskInfo =>
    obtain ⟨within,_⟩ := List.getElem?_eq_some_iff.mp found
    have some : 0 < s.context.activeChildCount := by omega
    have counts := childResult_counts env resultCode taskInfo.authType finalResult some
    have moved : step s (.result index resultCode finalResult env) =
        let outcome := WidgetContext.step s.context ⟨.onChildAuthResult resultCode taskInfo.authType finalResult,env⟩
        (⟨outcome.1,s.live.eraseIdx index⟩,outcome.2) := by simp [step,found]
    rw [moved]
    refine ⟨?_,counts.2.2,step_results _ _,counts.2.1⟩
    intro _
    have left := counts.1
    have shorter : (s.live.eraseIdx index).length = s.live.length - 1 := List.length_eraseIdx_of_lt within
    rw [←Nat.add_right_cancel_iff (n:=1)]
    refine left.trans ?_
    rw [shorter]
    omega

theorem step_accounts (counted : Counted s told) (input : Input) : Accounts s (step s input) := by
  cases input with
  | result index resultCode finalResult env => exact result_accounts index resultCode finalResult env counted.count
  | call call env =>
    by_cases uncounted : call.uncounted = true
    · exact uncounted_accounts env uncounted
    · cases call with
      | clearSchedule => exact clearSchedule_accounts env
      | executeAuthList authTypeList endAfterFirstFail authIntent =>
        exact executeAuthList_accounts env authTypeList endAfterFirstFail authIntent counted.settled
      | onChildAuthResult => exact accounts_none s
      | onTerminateTimerTimeOut => exact accounts_none s
      | _ => exact absurd rfl uncounted

theorem step_counted (counted : Counted s told) (input : Input) :
    Counted (step s input).1 (told ++ (step s input).2) := by
  have accounts := step_accounts counted input
  refine ⟨accounts.count counted.count,accounts.settled counted.settled,?_⟩
  rw [resultCount_append,counted.delivered,Nat.add_comm]
  exact accounts.results

theorem terminations_counted (counted : Counted s told) (input : Input) (member : found ∈ s.terminations input) :
    0 < found.activeChildCount := by
  cases input with
  | call call env =>
    cases call with
    | executeAuthList authTypeList endAfterFirstFail authIntent =>
      simp only [terminations,WidgetContext.terminations] at member
      split at member
      · cases member
      · exact launchTerminations_counted endAfterFirstFail authIntent authTypeList member
    | _ => cases member
  | result index resultCode finalResult env =>
    simp only [terminations] at member
    split at member
    · cases member
    · rename_i taskInfo live
      obtain rfl := List.mem_singleton.mp member
      obtain ⟨within,_⟩ := List.getElem?_eq_some_iff.mp live
      rw [(childReported_quiets _ _ _ _).count,counted.count]
      omega

end Steps

def create (para : ContextFactory.AuthWidgetContextPara) (modalCallback remoteAuthCallback : Bool) : WidgetChildren :=
  ⟨WidgetContext.create para modalCallback remoteAuthCallback,[]⟩

theorem run_counted (para : ContextFactory.AuthWidgetContextPara) (modalCallback remoteAuthCallback : Bool)
    (inputs : List Input) :
    let start := create para modalCallback remoteAuthCallback
    Counted (machine.after start inputs) (machine.trace start inputs) := by
  have start : Counted (create para modalCallback remoteAuthCallback) [] :=
    ⟨rfl,fun released => Bool.noConfusion released,rfl⟩
  exact Mealy.history (m:=machine) (P:=Counted) (fun _ _ input counted => step_counted counted input) start inputs

-- The last clause covers both orders: the release after the last child, and the
-- last child after the release.
theorem children_counted (para : ContextFactory.AuthWidgetContextPara) (modalCallback remoteAuthCallback : Bool)
    (inputs : List Input) :
    let start := create para modalCallback remoteAuthCallback
    let run := machine.after start inputs
    let told := machine.trace start inputs
    run.context.activeChildCount = run.live.length ∧
      (∀ input, ∀ found ∈ run.terminations input, 0 < found.activeChildCount) ∧
      (∀ input, run.context.phase ≠ RELEASED → (step run input).1.context.phase = RELEASED →
        (step run input).1.context.activeChildCount = 0 ∨
          ∃ before after, told ++ (step run input).2 = before ++ [.clientClearSchedule,.poolDelete] ++ after ∧
            0 < resultCount before) ∧
      (run.context.scheduleReleased = true → run.live = [] → run.context.phase = RELEASED) := by
  intro start run told
  have counted : Counted run told := run_counted para modalCallback remoteAuthCallback inputs
  refine ⟨counted.count,fun input found => terminations_counted counted input,?_,?_⟩
  · intro input live done
    rcases (step_accounts counted input).timely live done with zero | ⟨before,after,split,reported⟩
    · exact .inl zero
    · refine .inr ⟨told ++ before,after,?_,?_⟩
      · simp only at split
        rw [split]
        simp only [List.append_assoc]
      · rw [resultCount_append,counted.delivered]
        rcases reported with delivered | some
        · have one : run.context.phase.delivered = 1 := if_pos delivered
          omega
        · omega
  · intro released none
    rcases counted.settled released with done | ⟨_,some⟩
    · exact done
    · have zero := counted.count
      rw [none,List.length_nil] at zero
      omega

end WidgetChildren
end UserAuth
