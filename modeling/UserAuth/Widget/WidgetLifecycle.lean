import UserAuth.Widget.WidgetContext

namespace UserAuth.WidgetContext
open Phase

def Output.isResult : Output → Bool
  | .onResult _ _ => true
  | _ => false

def Output.isDelete : Output → Bool
  | .poolDelete => true
  | _ => false

def resultCount (outputs : List Output) : Nat := outputs.countP Output.isResult
def deleteCount (outputs : List Output) : Nat := outputs.countP Output.isDelete

-- What a phase says about the past: one result from RESULT_DELIVERED on, one
-- deletion from RELEASED on.
def Phase.delivered (phase : Phase) : Nat := if RESULT_DELIVERED ≤ phase then 1 else 0
def Phase.released (phase : Phase) : Nat := if phase = RELEASED then 1 else 0

def Armed (s : WidgetContext) : Prop := s.phase = RESULT_DELIVERED → s.onTerminateTimerId ≠ 0

-- Which results may reach the caller. A result without attributes always may.
structure ResultPolicy where
  allows : ResultCode → Attributes → Prop
  plain : ∀ resultCode, allows resultCode Attributes.empty

def ResultPolicy.any : ResultPolicy := ⟨fun _ _ => True,fun _ => trivial⟩

def Allowed (policy : ResultPolicy) (outputs : List Output) : Prop :=
  ∀ resultCode attr, .onResult resultCode attr ∈ outputs → policy.allows resultCode attr

-- What a stretch of code may do to a session, whatever else it does.
structure Counts (s : WidgetContext) (outcome : Outcome) : Prop where
  forward : s.phase ≤ outcome.1.phase
  results : resultCount outcome.2 + s.phase.delivered = outcome.1.phase.delivered
  deletes : deleteCount outcome.2 + s.phase.released = outcome.1.phase.released

structure Moves (policy : ResultPolicy) (s : WidgetContext) (outcome : Outcome) : Prop extends Counts s outcome where
  armed : Armed s → Armed outcome.1
  allowed : Allowed policy outcome.2

structure Quiet (outputs : List Output) : Prop where
  results : resultCount outputs = 0
  deletes : deleteCount outputs = 0

@[simp] theorem resultCount_nil : resultCount [] = 0 := rfl
@[simp] theorem deleteCount_nil : deleteCount [] = 0 := rfl
theorem resultCount_append (xs ys : List Output) : resultCount (xs ++ ys) = resultCount xs + resultCount ys :=
  List.countP_append
theorem deleteCount_append (xs ys : List Output) : deleteCount (xs ++ ys) = deleteCount xs + deleteCount ys :=
  List.countP_append

theorem quiet_of_forall (silent : ∀ output ∈ outputs, output.isResult = false ∧ output.isDelete = false) :
    Quiet outputs := by
  constructor
  · exact List.countP_eq_zero.mpr fun output member => by simp [silent output member]
  · exact List.countP_eq_zero.mpr fun output member => by simp [silent output member]

theorem quiet_nil : Quiet [] := ⟨rfl,rfl⟩

theorem Quiet.append (left : Quiet xs) (right : Quiet ys) : Quiet (xs ++ ys) := by
  constructor
  · rw [resultCount_append,left.results,right.results]
  · rw [deleteCount_append,left.deletes,right.deletes]

theorem Quiet.allowed (policy : ResultPolicy) (silent : Quiet outputs) : Allowed policy outputs := by
  intro resultCode attr member
  have counted := List.countP_eq_zero.mp silent.results _ member
  simp [Output.isResult] at counted

theorem Allowed.append (left : Allowed policy xs) (right : Allowed policy ys) : Allowed policy (xs ++ ys) := by
  intro resultCode attr member
  cases List.mem_append.mp member with
  | inl before => exact left _ _ before
  | inr after => exact right _ _ after

theorem Counts.andThen {first : Outcome} {next : WidgetContext → Outcome} (one : Counts s first)
    (two : Counts first.1 (next first.1)) : Counts s (Mealy.andThen first next) := by
  refine ⟨Nat.le_trans one.forward two.forward,?_,?_⟩
  · have before := one.results
    have after := two.results
    simp only [Mealy.andThen,resultCount_append]
    omega
  · have before := one.deletes
    have after := two.deletes
    simp only [Mealy.andThen,deleteCount_append]
    omega

namespace Moves
variable {policy : ResultPolicy}

theorem andThen {first : Outcome} {next : WidgetContext → Outcome} (one : Moves policy s first)
    (two : Moves policy first.1 (next first.1)) : Moves policy s (Mealy.andThen first next) :=
  ⟨one.toCounts.andThen two.toCounts,fun armed => two.armed (one.armed armed),one.allowed.append two.allowed⟩

-- Neither the phase nor the timer changes.
theorem quiet (phase : next.phase = s.phase) (timer : next.onTerminateTimerId = s.onTerminateTimerId)
    (silent : Quiet outputs) : Moves policy s (next,outputs) := by
  refine ⟨⟨Nat.le_of_eq (congrArg Phase.rank phase.symm),?_,?_⟩,?_,silent.allowed policy⟩
  · simp [silent.results,phase]
  · simp [silent.deletes,phase]
  · intro armed delivered
    have before := armed (phase.symm.trans delivered)
    simpa [timer] using before

theorem none (s : WidgetContext) : Moves policy s (s,[]) := quiet rfl rfl quiet_nil

-- The start may differ from `s` in what the session's end does not read.
theorem start (moves : Moves policy t outcome) (phase : t.phase = s.phase)
    (timer : t.onTerminateTimerId = s.onTerminateTimerId) : Moves policy s outcome := by
  refine ⟨⟨?_,?_,?_⟩,?_,moves.allowed⟩
  · rw [←phase]
    exact moves.forward
  · rw [←phase]
    exact moves.results
  · rw [←phase]
    exact moves.deletes
  · intro armed
    apply moves.armed
    unfold Armed
    rw [phase,timer]
    exact armed

theorem after (one : Moves policy s (middle,[])) (two : Moves policy middle outcome) : Moves policy s outcome := by
  have both : Moves policy s (Mealy.andThen (middle,[]) fun _ => outcome) := one.andThen two
  exact both

theorem prefixed (silent : Quiet xs) (moves : Moves policy s (next,ys)) : Moves policy s (next,xs ++ ys) := by
  refine ⟨⟨moves.forward,?_,?_⟩,moves.armed,(silent.allowed policy).append moves.allowed⟩
  · have after := moves.results
    simpa only [resultCount_append,silent.results,Nat.zero_add] using after
  · have after := moves.deletes
    simpa only [deleteCount_append,silent.deletes,Nat.zero_add] using after

theorem rearmed (phase : next.phase = s.phase) (timer : next.onTerminateTimerId ≠ 0) : Moves policy s (next,[]) := by
  refine ⟨⟨Nat.le_of_eq (congrArg Phase.rank phase.symm),?_,?_⟩,fun _ _ => timer,quiet_nil.allowed policy⟩
  · simp [phase]
  · simp [phase]

theorem advance (before : s.phase < next) (early : next < RESULT_DELIVERED) : Moves policy s ({s with phase:=next},[]) := by
  have bounds : s.phase.rank < next.rank ∧ next.rank < 3 := ⟨before,early⟩
  refine ⟨⟨Nat.le_of_lt before,?_,?_⟩,?_,quiet_nil.allowed policy⟩
  · have undelivered : s.phase.delivered = 0 := if_neg (by simp only [le_rank,rank_resultDelivered]; omega)
    have still : next.delivered = 0 := if_neg (Nat.not_le.mpr early)
    simp [undelivered,still]
  · have kept : s.phase.released = 0 := if_neg fun same => by simp [same] at bounds; omega
    have still : next.released = 0 := if_neg fun same => by simp [same] at bounds
    simp [kept,still]
  · intro _ delivered
    simp only at delivered
    simp [delivered] at bounds

end Moves

section Ending
variable {policy : ResultPolicy} {env : Env} {s : WidgetContext}

theorem startOnTerminateTimer_armed : (startOnTerminateTimer env s).onTerminateTimerId ≠ 0 := by
  unfold startOnTerminateTimer
  split
  · rename_i running
    simpa using running
  · exact env.timerId.property

theorem startOnTerminateTimer_phase : (startOnTerminateTimer env s).phase = s.phase := by
  unfold startOnTerminateTimer
  split <;> rfl

theorem delivery_once (s : WidgetContext) (resultCode : ResultCode) (attr : Attributes) :
    resultCount (deliverResultLocked s resultCode attr) = 1 ∧ deleteCount (deliverResultLocked s resultCode attr) = 0 := by
  unfold deliverResultLocked
  split <;> exact ⟨rfl,rfl⟩

theorem delivery_counts (before : s.phase < RESULT_DELIVERED) (reached : next.phase = RESULT_DELIVERED)
    (t : WidgetContext) (resultCode : ResultCode) (attr : Attributes) :
    Counts s (next,deliverResultLocked t resultCode attr) := by
  have once := delivery_once t resultCode attr
  refine ⟨?_,?_,?_⟩
  · rw [reached]
    exact Nat.le_of_lt before
  · have undelivered : s.phase.delivered = 0 := if_neg (Nat.not_le.mpr before)
    rw [once.1,undelivered,reached]
    rfl
  · have kept : s.phase.released = 0 := if_neg fun same => by simp [same] at before
    rw [once.2,kept,reached]
    rfl

theorem deliveryOf_mem (t : WidgetContext) :
    .onResult code attr ∈ deliverResultLocked t resultCode extraInfo ↔ code = resultCode ∧ attr = extraInfo := by
  unfold deliverResultLocked
  split <;> simp

theorem plain_allowed (policy : ResultPolicy) (t : WidgetContext) (resultCode : ResultCode) :
    Allowed policy (deliverResultLocked t resultCode Attributes.empty) := by
  intro code attr member
  obtain ⟨rfl,rfl⟩ := (deliveryOf_mem t).mp member
  exact policy.plain code

theorem endLocked_done (done : s.phase = RELEASED) : endLocked s = (s,[]) := by
  have refused : advancePhaseLocked s RELEASED = (s,false) := advance_refused (by simp [done])
  simp [endLocked,refused]

theorem open_before (live : s.phase ≠ RELEASED) : s.phase < RELEASED := by
  have bound := s.phase.rank_le_four
  have apart : s.phase.rank ≠ 4 := fun same => live (rank_injective same)
  simp only [lt_rank,rank_released]
  omega

theorem endLocked_open (live : s.phase ≠ RELEASED) :
    endLocked s = ({s with phase:=RELEASED,onTerminateTimerId:=0},[.clientClearSchedule] ++
      (if s.phase < RESULT_DELIVERED then deliverResultLocked s ResultCode.CANCELED Attributes.empty else []) ++
      [.poolDelete]) := by
  simp only [endLocked,advance_taken (open_before live)]
  rfl

theorem endLocked_released : (endLocked s).1.phase = RELEASED := by
  by_cases live : s.phase = RELEASED
  · rw [endLocked_done live]
    exact live
  · rw [endLocked_open live]

theorem endLocked_counts : Counts s (endLocked s) := by
  by_cases live : s.phase = RELEASED
  · rw [endLocked_done live]
    exact ⟨Nat.le_refl _,Nat.zero_add _,Nat.zero_add _⟩
  · have once := delivery_once s ResultCode.CANCELED Attributes.empty
    rw [endLocked_open live]
    refine ⟨Nat.le_of_lt (open_before live),?_,?_⟩
    · by_cases early : s.phase < RESULT_DELIVERED
      · have undelivered : s.phase.delivered = 0 := if_neg (Nat.not_le.mpr early)
        rw [if_pos early,undelivered,resultCount_append,resultCount_append,once.1]
        rfl
      · have delivered : s.phase.delivered = 1 := if_pos (Nat.not_lt.mp early)
        rw [if_neg early,delivered]
        rfl
    · have kept : s.phase.released = 0 := if_neg live
      rw [kept]
      split
      · rw [deleteCount_append,deleteCount_append,once.2]
        rfl
      · rfl

theorem endLocked_allowed : Allowed policy (endLocked s).2 := by
  by_cases live : s.phase = RELEASED
  · rw [endLocked_done live]
    exact quiet_nil.allowed policy
  · have client : Quiet [Output.clientClearSchedule] := ⟨rfl,rfl⟩
    have deletion : Allowed policy [.poolDelete] := by simp [Allowed]
    rw [endLocked_open live]
    refine .append (.append (client.allowed policy) ?_) deletion
    split
    · exact plain_allowed policy s _
    · exact quiet_nil.allowed policy

-- Once released there is nothing left to arm a timer for.
theorem moves_of_released (counts : Counts s outcome) (reached : outcome.1.phase = RELEASED)
    (allowed : Allowed policy outcome.2) : Moves policy s outcome :=
  ⟨counts,fun _ delivered => (by rw [reached] at delivered; cases delivered),allowed⟩

theorem endLocked_moves : Moves policy s (endLocked s) :=
  moves_of_released endLocked_counts endLocked_released endLocked_allowed

theorem tryEndLocked_moves : Moves policy s (tryEndLocked env s) := by
  unfold tryEndLocked
  split
  · exact .none s
  · split
    · exact .rearmed startOnTerminateTimer_phase startOnTerminateTimer_armed
    · exact endLocked_moves

theorem onChildTerminated_moves : Moves policy s (onChildTerminated env s) := by
  unfold onChildTerminated
  dsimp only
  split
  · split
    · exact .quiet rfl rfl quiet_nil
    · exact tryEndLocked_moves.start rfl rfl
  · split
    · exact .none s
    · exact tryEndLocked_moves

theorem clearSchedule_moves : Moves policy s (clearSchedule env s) := by
  unfold clearSchedule
  split
  · exact .none s
  · exact tryEndLocked_moves.start rfl rfl

theorem onTerminateTimerTimeOut_moves : Moves policy s (onTerminateTimerTimeOut s) := by
  unfold onTerminateTimerTimeOut
  split
  · exact .none s
  · have counts : Counts {s with onTerminateTimerId:=0,activeChildCount:=0} _ := endLocked_counts
    exact moves_of_released ⟨counts.forward,counts.results,counts.deletes⟩ endLocked_released endLocked_allowed

theorem onStartFailed_moves (errorCode : ResultCode) : Moves policy s (onStartFailed s errorCode) := by
  unfold onStartFailed
  by_cases before : s.phase < RESULT_DELIVERED
  · rw [advance_taken before]
    exact moves_of_released ((delivery_counts before rfl _ _ _).andThen endLocked_counts) endLocked_released
      ((plain_allowed policy _ errorCode).append endLocked_allowed)
  · rw [advance_refused (Nat.not_lt.mp before)]
    exact .none s

theorem disconnectExtension_moves : Moves policy s (disconnectExtension env s) := by
  have stop : Quiet (if s.schedule then [Output.schedule .stopSchedule] else []) := by
    split
    · exact ⟨rfl,rfl⟩
    · exact quiet_nil
  unfold disconnectExtension
  dsimp only
  split
  · refine .quiet rfl rfl (stop.append ?_)
    split <;> exact ⟨rfl,rfl⟩
  · split
    · exact .quiet rfl rfl stop
    · exact .quiet rfl rfl (stop.append ⟨rfl,rfl⟩)

theorem stopAllRunTask_moves (resultCode : ResultCode) : Moves policy s (stopAllRunTask env s resultCode) := by
  have cancels : Quiet (s.runTaskInfoList.map fun taskInfo => Output.poolCancel taskInfo.taskId) := by
    apply quiet_of_forall
    intro output member
    obtain ⟨_,_,rfl⟩ := List.mem_map.mp member
    exact ⟨rfl,rfl⟩
  have cleared : Moves policy s ({s with runTaskInfoList:=[]},_) := .quiet rfl rfl cancels
  unfold stopAllRunTask
  apply cleared.andThen
  · split
    · exact disconnectExtension_moves
    · exact .none _

theorem stopAllRunTask_keeps (resultCode : ResultCode) :
    (stopAllRunTask env s resultCode).1.phase = s.phase ∧
      (stopAllRunTask env s resultCode).1.authResultInfo = s.authResultInfo := by
  unfold stopAllRunTask Mealy.andThen
  dsimp only
  split
  · unfold disconnectExtension
    dsimp only
    split
    · exact ⟨rfl,rfl⟩
    · split <;> exact ⟨rfl,rfl⟩
  · exact ⟨rfl,rfl⟩

theorem endResult_congr (same : t.authResultInfo = s.authResultInfo) (resultCode : ResultCode) :
    endResult t resultCode = endResult s resultCode := by
  unfold endResult handleAuthSuccessResult successSetters
  rw [same]

def Ends (policy : ResultPolicy) (s : WidgetContext) (resultCode : ResultCode) : Prop :=
  s.phase < STOPPING → policy.allows (endResult s resultCode).1 (endResult s resultCode).2

theorem deliverEndLocked_moves (resultCode : ResultCode)
    (allowed : policy.allows (endResult s resultCode).1 (endResult s resultCode).2) :
    Moves policy s (deliverEndLocked env s resultCode) := by
  by_cases before : s.phase < RESULT_DELIVERED
  · rw [deliverEndLocked_open env before]
    refine ⟨delivery_counts before startOnTerminateTimer_phase _ _ _,fun _ _ => startOnTerminateTimer_armed,?_⟩
    intro code attr member
    obtain ⟨rfl,rfl⟩ := (deliveryOf_mem s).mp member
    exact allowed
  · rw [deliverEndLocked_ended env (Nat.not_lt.mp before)]
    exact .none s

theorem endWith_moves (ends : Ends policy s resultCode) : Moves policy s (endWith env s resultCode) := by
  by_cases before : s.phase < STOPPING
  · rw [endWith_open env before]
    refine (Moves.advance before (by decide)).after ?_
    have keeps := (@stopAllRunTask_keeps env {s with phase:=STOPPING} resultCode).2
    refine (stopAllRunTask_moves resultCode).andThen ?_
    refine (deliverEndLocked_moves resultCode ?_).andThen tryEndLocked_moves
    rw [endResult_congr keeps resultCode]
    exact ends before
  · rw [endWith_ended env (Nat.not_lt.mp before)]
    exact .none s

-- The result an End brings is the one its session and its code make.
theorem endWith_delivers (before : s.phase < STOPPING) (resultCode : ResultCode) :
    .onResult (endResult s resultCode).1 (endResult s resultCode).2 ∈ (endWith env s resultCode).2 := by
  have keeps := @stopAllRunTask_keeps env {s with phase:=STOPPING} resultCode
  have early : (stopAllRunTask env {s with phase:=STOPPING} resultCode).1.phase < RESULT_DELIVERED := by
    rw [keeps.1]
    exact (by decide : STOPPING < RESULT_DELIVERED)
  have same : endResult (stopAllRunTask env {s with phase:=STOPPING} resultCode).1 resultCode = endResult s resultCode :=
    endResult_congr keeps.2 resultCode
  rw [endWith_open env before]
  refine List.mem_append_right _ (List.mem_append_left _ ?_)
  rw [deliverEndLocked_open env early,same]
  exact (deliveryOf_mem _).mpr ⟨rfl,rfl⟩

end Ending
-- The End a call makes, if it makes one: the session it finds and the code.
section Endings
variable (env : Env) (s : WidgetContext)

def connectEnding (widgetRotatePara : WidgetRotatePara) : Option (WidgetContext × ResultCode) :=
  let refreshed := if widgetRotatePara.isReload then refreshAuthProfiles env s.para.authProfileMap s.para.authTypeList
    else (s.para.authProfileMap,true)
  let locked := lockedOut (storeProfiles s refreshed.1)
  if !refreshed.2 then none
  else if locked.2 then some (locked.1,ResultCode.LOCKED)
  else if !isWidgetLaunchAllowed env then some (locked.1,ResultCode.CANCELED)
  else none

def scheduleResultEnding (resultCode : ResultCode) (authType : AuthType) (token : Bytes) : WidgetContext × ResultCode :=
  if resultCode != ResultCode.SUCCESS then (s,resultCode)
  else
    let s := {s with authResultInfo:={s.authResultInfo with token,authType,resultUserId:=s.para.userId}}
    match env.enrolledState with
    | .refused code _ => (s,code)
    | .answered enrolledState =>
      let authResultInfo := {s.authResultInfo with
        credentialCount:=enrolledState.credentialCount,credentialDigest:=enrolledState.credentialDigest &&& 0xFFFF}
      ({s with authResultInfo},ResultCode.SUCCESS)

end Endings

def ending (s : WidgetContext) (input : Input) : Option (WidgetContext × ResultCode) :=
  let env := input.env
  match input.call with
  | .stop => if s.phase == NOT_STARTED then none else some (s,ResultCode.CANCELED)
  | .launchWidget => if s.phase ≥ STOPPING then none else connectEnding env s {}
  | .onAuthSuccess => some (s,
    if s.latestError == ResultCode.COMPLEXITY_CHECK_FAILED then ResultCode.TRUST_LEVEL_NOT_SUPPORT else ResultCode.SUCCESS)
  | .onAuthFail => some (s,s.latestError)
  | .endAuthAsCancel =>
    if s.latestError == ResultCode.COMPLEXITY_CHECK_FAILED then some (s,ResultCode.TRUST_LEVEL_NOT_SUPPORT)
    else if s.connection && env.onResultEnd then none
    else some (s,ResultCode.CANCELED)
  | .endAuthAsNaviPin => some (s,ResultCode.CANCELED_FROM_WIDGET)
  | .endAuthAsWidgetParaInvalid => some (s,ResultCode.INVALID_PARAMETERS)
  | .onScheduleAuthResult resultCode authType token => some (scheduleResultEnding env s resultCode authType token)
  | .authWidgetReload orientation needRotate alreadyLoad rotateAuthType =>
    connectEnding env (if alreadyLoad != 0 then {s with widgetAlreadyLoad:=1} else s)
      ⟨true,orientation,needRotate,alreadyLoad,rotateAuthType⟩
  | _ => none

def Grants (policy : ResultPolicy) (made : Option (WidgetContext × ResultCode)) : Prop :=
  ∀ ended ∈ made, Ends policy ended.1 ended.2

section Launching
variable {policy : ResultPolicy} {env : Env} {s : WidgetContext}

theorem lockedOut_moves : Moves policy s ((lockedOut s).1,[]) := by
  unfold lockedOut
  split
  · exact .quiet rfl rfl quiet_nil
  · exact .none s

theorem showWidget_moves : Moves policy s (showWidget env s widgetRotatePara).1 := by
  unfold showWidget
  split
  · exact .none s
  · split
    · exact .none s
    · split
      · refine .quiet rfl rfl ?_
        split <;> exact ⟨rfl,rfl⟩
      · unfold connectExtensionAbility
        split
        · exact .none s
        · exact .quiet rfl rfl ⟨rfl,rfl⟩

theorem connectExtension_moves (grants : Grants policy (connectEnding env s widgetRotatePara)) :
    Moves policy s (connectExtension env s widgetRotatePara).1 := by
  unfold connectEnding at grants
  unfold connectExtension
  dsimp only at grants ⊢
  generalize (if widgetRotatePara.isReload = true then refreshAuthProfiles env s.para.authProfileMap s.para.authTypeList
    else (s.para.authProfileMap,true)) = refreshed at grants ⊢
  have stored : Moves policy s (storeProfiles s refreshed.1,[]) := .quiet rfl rfl quiet_nil
  by_cases failed : (!refreshed.2) = true
  · rw [if_pos failed]
    exact stored
  · rw [if_neg failed] at grants ⊢
    apply stored.after
    by_cases locked : (lockedOut (storeProfiles s refreshed.1)).2 = true
    · rw [if_pos locked] at grants ⊢
      exact lockedOut_moves.after (endWith_moves (grants _ rfl))
    · rw [if_neg locked] at grants ⊢
      by_cases refused : (!isWidgetLaunchAllowed env) = true
      · rw [if_pos refused] at grants ⊢
        exact lockedOut_moves.after (endWith_moves (grants _ rfl))
      · rw [if_neg refused]
        exact lockedOut_moves.after showWidget_moves

theorem launchWidget_moves (grants : s.phase < STOPPING → Grants policy (connectEnding env s {})) :
    Moves policy s (launchWidget env s).1 := by
  unfold launchWidget
  split
  · exact .none s
  · rename_i live
    refine .prefixed ?_ (connectExtension_moves (grants (Nat.not_le.mp live)))
    split <;> exact ⟨rfl,rfl⟩

theorem authWidgetReload_moves
    (grants : Grants policy (connectEnding env (if alreadyLoad != 0 then {s with widgetAlreadyLoad:=1} else s)
      ⟨true,orientation,needRotate,alreadyLoad,rotateAuthType⟩)) :
    Moves policy s (authWidgetReload env s orientation needRotate alreadyLoad rotateAuthType).1 := by
  unfold authWidgetReload
  dsimp only [isValidRotate]
  simp only [Bool.not_true,Bool.false_eq_true,if_false]
  refine (connectExtension_moves grants).start ?_ ?_
  · split <;> rfl
  · split <;> rfl

theorem getRemoteAuthParam_quiet : Quiet (getRemoteAuthParam s) := by
  unfold getRemoteAuthParam
  split <;> exact ⟨rfl,rfl⟩

end Launching

section Children
variable {policy : ResultPolicy} {env : Env} {s : WidgetContext}

theorem onScheduleAuthTip_quiet (authType : AuthType) (tipCode : Int32) : Quiet (onScheduleAuthTip authType tipCode) := by
  unfold onScheduleAuthTip
  split <;> exact ⟨rfl,rfl⟩

theorem tip_quiet (condition : Bool) (authType : AuthType) (tipCode : Int32) :
    Quiet (if condition then onScheduleAuthTip authType tipCode else []) := by
  cases condition with
  | true => exact onScheduleAuthTip_quiet authType tipCode
  | false => exact quiet_nil

theorem skipFrozen_moves (silent : Quiet elsewhere) : Moves policy s (skipFrozen s authType elsewhere) := by
  unfold skipFrozen
  split
  · exact .quiet rfl rfl ⟨rfl,rfl⟩
  · split
    · exact .quiet rfl rfl ⟨rfl,rfl⟩
    · exact .quiet rfl rfl silent

theorem procAuthResult_moves : Moves policy s (procAuthResult s resultCode authType freezingTime finalResult) := by
  unfold procAuthResult
  split
  · exact .none s
  · split
    · refine .quiet rfl rfl ?_
      split <;> exact ⟨rfl,rfl⟩
    · dsimp only
      split
      · exact .quiet rfl rfl ⟨rfl,rfl⟩
      · have told : Moves policy s (setLatestError s resultCode,_) := .quiet rfl rfl (tip_quiet (resultCode != ResultCode.CANCELED)
          authType (getAuthTipCode resultCode freezingTime))
        apply told.andThen
        dsimp only
        split
        · exact skipFrozen_moves ⟨rfl,rfl⟩
        · exact .quiet rfl rfl ⟨rfl,rfl⟩

theorem onChildAuthResult_moves : Moves policy s (onChildAuthResult env s resultCode authType finalResult) := by
  unfold onChildAuthResult
  dsimp only
  refine Moves.andThen ?_ onChildTerminated_moves
  split
  · exact .none s
  · have reported : Moves policy s (s,[Output.reportWidgetResult resultCode authType
        ((finalResult.getInt32Value Attributes.ATTR_FREEZING_TIME).getD (-1))
        ((finalResult.getInt32Value Attributes.ATTR_REMAIN_TIMES).getD (-1))]) := .quiet rfl rfl ⟨rfl,rfl⟩
    exact reported.andThen procAuthResult_moves

theorem procAuthTipInfo_moves : Moves policy s (procAuthTipInfo env s authType) := by
  unfold procAuthTipInfo
  split
  · exact .none s
  · split
    · exact .none s
    · rename_i resultCode freezingTime _
      split
      · exact .none s
      · have told : Moves policy s (s,_) := .quiet rfl rfl (tip_quiet (resultCode != ResultCode.CANCELED) authType
          (getAuthTipCode resultCode freezingTime))
        apply told.andThen
        dsimp only
        split
        · exact skipFrozen_moves quiet_nil
        · exact .none _

theorem onChildAuthTip_moves : Moves policy s (onChildAuthTip env s tipType authType extraInfo) := by
  unfold onChildAuthTip
  split
  · exact .none s
  · rename_i tipInfo _
    have reported : Moves policy s (s,[Output.reportWidgetTip tipType authType tipInfo]) := .quiet rfl rfl ⟨rfl,rfl⟩
    exact reported.andThen procAuthTipInfo_moves

theorem reportChildError_moves : Moves policy s (reportChildError env s launch authType) := by
  unfold reportChildError
  split
  · exact onChildAuthResult_moves
  · exact onChildTerminated_moves

theorem buildTask_moves : Moves policy s (buildTask env s authType endAfterFirstFail authIntent).1 := by
  unfold buildTask
  dsimp only
  split
  · exact reportChildError_moves
  · split
    · exact reportChildError_moves
    · rename_i taskId _
      have posted : Moves policy s (s,[Output.scheduleChild (buildAuthenticationPara env s authType endAfterFirstFail authIntent)
        taskId]) := .quiet rfl rfl ⟨rfl,rfl⟩
      split
      · dsimp only
        exact posted.andThen reportChildError_moves
      · exact posted

theorem launchTask_moves : Moves policy s (launchTask env s authType endAfterFirstFail authIntent) := by
  unfold launchTask
  dsimp only
  refine Moves.start ?_ (t:={s with activeChildCount:=s.activeChildCount + 1}) rfl rfl
  split
  · exact buildTask_moves
  · apply buildTask_moves.andThen
    split
    · exact .quiet rfl rfl quiet_nil
    · exact .quiet rfl rfl quiet_nil

theorem launchTasks_moves : Moves policy s (launchTasks env s endAfterFirstFail authIntent authTypeList) := by
  induction authTypeList generalizing s with
  | nil => exact .none s
  | cons authType rest ih => exact launchTask_moves.andThen ih

theorem executeAuthList_moves : Moves policy s (executeAuthList env s authTypeList endAfterFirstFail authIntent) := by
  unfold executeAuthList
  split
  · exact .none s
  · exact launchTasks_moves

theorem stopAuthList_moves : Moves policy s (stopAuthList s authTypeList) := by
  induction authTypeList generalizing s with
  | nil => exact .none s
  | cons authType rest ih =>
    unfold stopAuthList
    split
    · exact ih
    · rename_i taskInfo _
      have cancelled : Moves policy s ({s with runTaskInfoList:=s.runTaskInfoList.erase taskInfo},
        [Output.poolCancel taskInfo.taskId]) := .quiet rfl rfl ⟨rfl,rfl⟩
      exact cancelled.andThen ih

end Children

section Events
variable {policy : ResultPolicy} {env : Env} {s : WidgetContext}

theorem onAuthSuccess_moves
    (ends : Ends policy s (if s.latestError == ResultCode.COMPLEXITY_CHECK_FAILED then ResultCode.TRUST_LEVEL_NOT_SUPPORT
      else ResultCode.SUCCESS)) : Moves policy s (onAuthSuccess env s) := by
  unfold onAuthSuccess
  by_cases complex : (s.latestError == ResultCode.COMPLEXITY_CHECK_FAILED) = true
  · rw [if_pos complex] at ends ⊢
    exact endWith_moves ends
  · rw [if_neg complex] at ends ⊢
    exact endWith_moves ends

theorem endAuthAsCancel_moves (grants : Grants policy (ending s ⟨.endAuthAsCancel,env⟩)) :
    Moves policy s (endAuthAsCancel env s) := by
  simp only [ending] at grants
  unfold endAuthAsCancel
  by_cases complex : (s.latestError == ResultCode.COMPLEXITY_CHECK_FAILED) = true
  · rw [if_pos complex] at grants ⊢
    exact endWith_moves (grants _ rfl)
  · rw [if_neg complex] at grants ⊢
    by_cases shown : (s.connection && env.onResultEnd) = true
    · rw [if_pos shown]
      exact .none s
    · rw [if_neg shown] at grants ⊢
      exact endWith_moves (grants _ rfl)

theorem onScheduleAuthResult_ends (resultCode : ResultCode) (authType : AuthType) (token : Bytes) :
    onScheduleAuthResult env s resultCode authType token =
      endWith env (scheduleResultEnding env s resultCode authType token).1
        (scheduleResultEnding env s resultCode authType token).2 := by
  unfold onScheduleAuthResult scheduleResultEnding
  split
  · rfl
  · cases env.enrolledState <;> rfl

theorem scheduleResultEnding_keeps (resultCode : ResultCode) (authType : AuthType) (token : Bytes) :
    (scheduleResultEnding env s resultCode authType token).1.phase = s.phase ∧
      (scheduleResultEnding env s resultCode authType token).1.onTerminateTimerId = s.onTerminateTimerId := by
  unfold scheduleResultEnding
  split
  · exact ⟨rfl,rfl⟩
  · cases env.enrolledState <;> exact ⟨rfl,rfl⟩

theorem onStart_moves : Moves policy s (onStart env s).1 := by
  unfold onStart
  dsimp only
  split
  · exact .quiet rfl rfl quiet_nil
  · split
    · exact .quiet rfl rfl quiet_nil
    · refine .quiet rfl rfl (quiet_of_forall ?_)
      intro output member
      cases List.mem_cons.mp member with
      | inl first => subst first; exact ⟨rfl,rfl⟩
      | inr call =>
        split at call
        · simp only [List.mem_cons,List.not_mem_nil,or_false] at call
          obtain rfl | rfl := call <;> exact ⟨rfl,rfl⟩
        · split at call
          · obtain rfl := List.mem_singleton.mp call
            exact ⟨rfl,rfl⟩
          · obtain rfl := List.mem_singleton.mp call
            exact ⟨rfl,rfl⟩

theorem start_moves : Moves policy s ((WidgetContext.start s).1,[]) := by
  unfold WidgetContext.start
  split
  · split
    · exact .none s
    · exact .quiet rfl rfl quiet_nil
  · rename_i fresh
    have fresh : s.phase = NOT_STARTED := by simpa using fresh
    have before : s.phase < RUNNING := by simp [fresh]
    rw [advance_taken before]
    exact (Moves.advance before (by decide)).after (.quiet rfl rfl quiet_nil)

theorem onStop_moves (ends : Ends policy s ResultCode.CANCELED) : Moves policy s (onStop env s) := by
  unfold onStop
  refine (endWith_moves ends).andThen ?_
  exact .quiet rfl rfl ⟨rfl,rfl⟩

theorem stop_moves (grants : Grants policy (ending s ⟨.stop,env⟩)) : Moves policy s (stop env s) := by
  simp only [ending] at grants
  unfold stop
  by_cases fresh : (s.phase == NOT_STARTED) = true
  · rw [if_pos fresh]
    have fresh : s.phase = NOT_STARTED := by simpa using fresh
    have before : s.phase < STOPPING := by simp [fresh]
    rw [advance_taken before]
    exact (Moves.advance before (by decide)).after (.quiet rfl rfl quiet_nil)
  · rw [if_neg fresh] at grants ⊢
    exact onStop_moves (grants _ rfl)

end Events

theorem step_moves (s : WidgetContext) (input : Input) (grants : Grants policy (ending s input)) :
    Moves policy s (step s input) := by
  obtain ⟨call,env⟩ := input
  cases call with
  | start => exact start_moves
  | onStart =>
    simp only [step]
    split
    · exact onStart_moves.start rfl rfl
    · exact .none s
  | onStartFailed errorCode => exact onStartFailed_moves errorCode
  | stop => exact stop_moves grants
  | reportStopBeforeStart =>
    simp only [step]
    split
    · exact (onStartFailed_moves _).start rfl rfl
    · exact .none s
  | launchWidget =>
    refine launchWidget_moves fun live => ?_
    have still : ¬s.phase ≥ STOPPING := Nat.not_le.mpr live
    simp only [ending] at grants
    rw [if_neg still] at grants
    exact grants
  | executeAuthList => exact executeAuthList_moves
  | stopAuthList => exact stopAuthList_moves
  | onAuthSuccess => exact onAuthSuccess_moves (grants _ rfl)
  | onAuthFail => exact endWith_moves (grants _ rfl)
  | endAuthAsCancel => exact endAuthAsCancel_moves grants
  | endAuthAsNaviPin => exact endWith_moves (grants _ rfl)
  | endAuthAsWidgetParaInvalid => exact endWith_moves (grants _ rfl)
  | onScheduleAuthTip authType tipCode => exact .quiet rfl rfl (onScheduleAuthTip_quiet authType tipCode)
  | onScheduleAuthResult resultCode authType token =>
    have keeps := @scheduleResultEnding_keeps env s resultCode authType token
    simp only [step,onScheduleAuthResult_ends]
    exact (endWith_moves (grants _ rfl)).start keeps.1 keeps.2
  | authWidgetReloadInit => exact disconnectExtension_moves
  | authWidgetReload => exact authWidgetReload_moves grants
  | getRemoteAuthParam => exact .quiet rfl rfl getRemoteAuthParam_quiet
  | clearSchedule => exact clearSchedule_moves
  | onChildAuthResult => exact onChildAuthResult_moves
  | onChildAuthTip => exact onChildAuthTip_moves
  | setRemoteAuthParam =>
    refine .quiet rfl rfl ?_
    dsimp only
    split <;> exact ⟨rfl,rfl⟩
  | onTerminateTimerTimeOut => exact onTerminateTimerTimeOut_moves

theorem step_counts (s : WidgetContext) (input : Input) : Moves .any s (step s input) :=
  step_moves s input fun _ _ _ => trivial

-- What holds of a session and of everything it has sent out.
structure Accounted (s : WidgetContext) (sent : List Output) : Prop where
  results : resultCount sent = s.phase.delivered
  deletes : deleteCount sent = s.phase.released
  armed : Armed s

theorem create_accounted (para : ContextFactory.AuthWidgetContextPara) (modalCallback remoteAuthCallback : Bool) :
    Accounted (create para modalCallback remoteAuthCallback) [] :=
  ⟨rfl,rfl,fun delivered => by cases delivered⟩

theorem step_accounted (s : WidgetContext) (sent : List Output) (input : Input) (before : Accounted s sent) :
    Accounted (step s input).1 (sent ++ (step s input).2) := by
  have moves := step_counts s input
  refine ⟨?_,?_,moves.armed before.armed⟩
  · rw [resultCount_append,before.results,←moves.results,Nat.add_comm]
  · rw [deleteCount_append,before.deletes,←moves.deletes,Nat.add_comm]

theorem runs_accounted (para : ContextFactory.AuthWidgetContextPara) (modalCallback remoteAuthCallback : Bool)
    (inputs : List Input) :
    Accounted (machine.after (create para modalCallback remoteAuthCallback) inputs)
      (machine.trace (create para modalCallback remoteAuthCallback) inputs) :=
  Mealy.history (m:=machine) step_accounted (create_accounted para modalCallback remoteAuthCallback) inputs

theorem delivered_le_one (phase : Phase) : phase.delivered ≤ 1 := by cases phase <;> decide

theorem deletion_at_release (s : WidgetContext) (input : Input) :
    .poolDelete ∈ (step s input).2 ↔ s.phase ≠ RELEASED ∧ (step s input).1.phase = RELEASED := by
  have counted : .poolDelete ∈ (step s input).2 ↔ 0 < deleteCount (step s input).2 := by
    rw [deleteCount,List.countP_pos_iff]
    refine ⟨fun member => ⟨_,member,rfl⟩,fun ⟨output,member,isDelete⟩ => ?_⟩
    cases output with
    | poolDelete => exact member
    | _ => cases isDelete
  have moves := (step_counts s input).deletes
  rw [counted]
  unfold Phase.released at moves
  by_cases done : s.phase = RELEASED
  · simp only [done,ne_eq,not_true,false_and,iff_false]
    rw [if_pos done] at moves
    split at moves <;> omega
  · rw [if_neg done] at moves
    by_cases reached : (step s input).1.phase = RELEASED
    · rw [if_pos reached] at moves
      exact iff_of_true (by omega) ⟨done,reached⟩
    · rw [if_neg reached] at moves
      exact iff_of_false (by omega) fun both => reached both.2

-- After any calls in any order, and over the next one.
theorem result_exactly_once (para : ContextFactory.AuthWidgetContextPara) (modalCallback remoteAuthCallback : Bool)
    (inputs : List Input) (input : Input) :
    let s := machine.after (create para modalCallback remoteAuthCallback) inputs
    let sent := machine.trace (create para modalCallback remoteAuthCallback) inputs
    s.phase ≤ (step s input).1.phase ∧
    resultCount sent ≤ 1 ∧ (s.phase = RELEASED → resultCount sent = 1) ∧
    (deleteCount sent = 1 ↔ s.phase = RELEASED) ∧ deleteCount sent ≤ 1 ∧
    (.poolDelete ∈ (step s input).2 ↔ s.phase ≠ RELEASED ∧ (step s input).1.phase = RELEASED) ∧
    (resultCount sent = 1 → s.phase ≠ RELEASED → s.onTerminateTimerId ≠ 0) := by
  intro s sent
  have accounted : Accounted s sent := runs_accounted para modalCallback remoteAuthCallback inputs
  have results := accounted.results
  have deletes := accounted.deletes
  refine ⟨(step_counts s input).forward,?_,?_,?_,?_,deletion_at_release s input,?_⟩
  · rw [results]
    exact delivered_le_one _
  · intro released
    rw [results,released]
    rfl
  · rw [deletes]
    unfold Phase.released
    split
    · rename_i released
      exact iff_of_true rfl released
    · rename_i live
      exact iff_of_false (by decide) live
  · rw [deletes]
    unfold Phase.released
    split <;> decide
  · intro once live
    rw [results] at once
    have reached : RESULT_DELIVERED ≤ s.phase := by
      by_contra before
      rw [Phase.delivered,if_neg before] at once
      cases once
    have bound : 3 ≤ s.phase.rank := reached
    have below : s.phase.rank < 4 := open_before live
    exact accounted.armed (rank_injective (by simp only [rank_resultDelivered]; omega))

end UserAuth.WidgetContext
