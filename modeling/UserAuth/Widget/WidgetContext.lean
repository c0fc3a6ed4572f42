import UserAuth.Contexts.ContextFactory
import UserAuth.Engine.EngineReply
import UserAuth.Lib.Mealy

namespace UserAuth
open Attributes ContextFactory Std

namespace WidgetContext

inductive Phase where
  | NOT_STARTED | RUNNING | STOPPING | RESULT_DELIVERED | RELEASED
  deriving DecidableEq,Repr

def Phase.rank : Phase → Nat
  | .NOT_STARTED => 0
  | .RUNNING => 1
  | .STOPPING => 2
  | .RESULT_DELIVERED => 3
  | .RELEASED => 4

instance : LE Phase := ⟨fun a b => a.rank ≤ b.rank⟩
instance : LT Phase := ⟨fun a b => a.rank < b.rank⟩
instance (a b : Phase) : Decidable (a ≤ b) := inferInstanceAs (Decidable (a.rank ≤ b.rank))
instance (a b : Phase) : Decidable (a < b) := inferInstanceAs (Decidable (a.rank < b.rank))

namespace Phase

@[simp] theorem le_rank (a b : Phase) : a ≤ b ↔ a.rank ≤ b.rank := Iff.rfl
@[simp] theorem lt_rank (a b : Phase) : a < b ↔ a.rank < b.rank := Iff.rfl
@[simp] theorem rank_notStarted : NOT_STARTED.rank = 0 := rfl
@[simp] theorem rank_running : RUNNING.rank = 1 := rfl
@[simp] theorem rank_stopping : STOPPING.rank = 2 := rfl
@[simp] theorem rank_resultDelivered : RESULT_DELIVERED.rank = 3 := rfl
@[simp] theorem rank_released : RELEASED.rank = 4 := rfl

theorem rank_injective {a b : Phase} (same : a.rank = b.rank) : a = b := by
  cases a <;> cases b <;> first | rfl | cases same

theorem rank_le_four (a : Phase) : a.rank ≤ 4 := by cases a <;> decide

end Phase

-- The timer service numbers its timers from one; zero stands for no timer.
abbrev TimerId := {id : UInt32 // id ≠ 0}

structure TaskInfo where
  authType : AuthType
  taskId : UInt64
  deriving DecidableEq

structure WidgetAuthResultInfo where
  token : Bytes := []
  authType : AuthType := AuthType.ALL
  credentialDigest : UInt64 := 0
  credentialCount : UInt16 := 0
  resultUserId : Int32 := 0
  deriving DecidableEq

structure WidgetRotatePara where
  isReload : Bool := false
  orientation : UInt32 := 0
  needRotate : UInt32 := 0
  alreadyLoad : UInt32 := 0
  rotateAuthType : AuthType := AuthType.ALL
  deriving DecidableEq

-- Calls to the widget schedule, which only queue events there.
inductive ScheduleCall where
  | getRemoteAuthParam
  | startSchedule
  | startDirectAuth
  | stopSchedule
  | clearSchedule
  | startAuthList (authTypeList : List AuthType) (endAfterFirstFail : Bool) (authIntent : AuthIntent)
  | stopAuthList (authTypeList : List AuthType)
  | notifyAuthSuccess (authType : AuthType)
  | notifyAuthFail (authType : AuthType)
  | naviPinAuth
  deriving DecidableEq

inductive Output where
  | schedule (call : ScheduleCall)
  | setWidgetSchedule
  | clientClearSchedule
  | reportWidgetResult (resultCode : ResultCode) (authType : AuthType) (freezingTime remainTimes : Int32)
  | reportWidgetTip (tipType : Int32) (authType : AuthType) (tipInfo : Bytes)
  | initFaceAlgo
  | scheduleChild (para : AuthenticationPara) (taskId : UInt64)
  | poolCancel (taskId : UInt64)
  | poolDelete
  | connectServiceExtensionAbility (commandData : String)
  | disconnectAbility
  | sendCommand (commandData : String)
  | onGetRemoteAuthWidgetParam (challenge : Bytes)
  | onAcquireInfo (authType : AuthType) (extraInfo : Attributes)
  | onResult (resultCode : ResultCode) (attr : Attributes)
  | onRemoteAuthResult (resultCode : ResultCode) (attr : Attributes)

structure ChildLaunch where
  iamCallback : Bool
  widgetCallback : Bool
  context : Option UInt64
  scheduled : Bool

-- What the surroundings answer while one handler runs. The start command is
-- none where its data cannot be dumped.
structure Env where
  timerId : TimerId
  profile : AuthType → ResultCode × AuthProfile
  scheduleCreated : Bool
  authTokenId : UInt32
  child : AuthType → ChildLaunch
  screenLocked : Bool
  callerAllowedOnLockScreen : Bool
  startCommand : WidgetRotatePara → Option String
  supportFollowCallerUi : Bool
  connectRet : Int32
  onResultEnd : Bool
  enrolledState : EngineReply EngEnrolledState
  authTipInfo : EngineReply (ResultCode × Int32)

end WidgetContext

open WidgetContext in
structure WidgetContext where
  para : AuthWidgetContextPara
  modalCallback : Bool := false
  remoteAuthCallback : Bool := false
  phase : Phase := .NOT_STARTED
  -- Start was granted and OnStart has not run.
  starting : Bool := false
  -- Stop came before the start and has not reported yet.
  stoppedBeforeStart : Bool := false
  useModalApplication : Bool := false
  activeChildCount : Nat := 0
  scheduleReleased : Bool := false
  latestError : ResultCode := ResultCode.GENERAL_ERROR
  isDirectAuth : Bool := false
  schedule : Bool := false
  runTaskInfoList : List TaskInfo := []
  connection : Bool := false
  authResultInfo : WidgetAuthResultInfo := {}
  faceReload : Int32 := 0
  widgetAlreadyLoad : UInt32 := 0
  onTerminateTimerId : UInt32 := 0

namespace WidgetContext
open Phase

abbrev Outcome := WidgetContext × List Output

section Release
variable (env : Env) (s : WidgetContext)

def advancePhaseLocked (next : Phase) : WidgetContext × Bool :=
  if next ≤ s.phase then (s,false) else ({s with phase:=next},true)

theorem advance_taken {s : WidgetContext} (before : s.phase < next) :
    advancePhaseLocked s next = ({s with phase:=next},true) := if_neg (Nat.not_le.mpr before)

theorem advance_refused {s : WidgetContext} (reached : next ≤ s.phase) : advancePhaseLocked s next = (s,false) :=
  if_pos reached

def deliverResultLocked (resultCode : ResultCode) (attr : Attributes) : List Output :=
  .onResult resultCode attr :: if s.remoteAuthCallback then [.onRemoteAuthResult resultCode attr] else []

def startOnTerminateTimer : WidgetContext :=
  if s.onTerminateTimerId != 0 then s else {s with onTerminateTimerId:=env.timerId}

def endLocked : Outcome :=
  let reportWithoutResult := s.phase < RESULT_DELIVERED
  let advanced := advancePhaseLocked s RELEASED
  if !advanced.2 then (s,[])
  else
    let s := {advanced.1 with onTerminateTimerId:=0}
    (s,[.clientClearSchedule] ++
      (if reportWithoutResult then deliverResultLocked s ResultCode.CANCELED Attributes.empty else []) ++ [.poolDelete])

def tryEndLocked : Outcome :=
  if s.phase == RELEASED || !s.scheduleReleased then (s,[])
  else if s.activeChildCount > 0 && s.phase < RESULT_DELIVERED then (startOnTerminateTimer env s,[])
  else endLocked s

def onChildTerminated : Outcome :=
  let s := if s.activeChildCount > 0 then {s with activeChildCount:=s.activeChildCount - 1} else s
  if s.activeChildCount != 0 then (s,[]) else tryEndLocked env s

def clearSchedule : Outcome :=
  if s.phase == RELEASED then (s,[]) else tryEndLocked env {s with scheduleReleased:=true}

def onTerminateTimerTimeOut : Outcome :=
  if s.phase == RELEASED then (s,[]) else endLocked {s with onTerminateTimerId:=0,activeChildCount:=0}

def onStartFailed (errorCode : ResultCode) : Outcome :=
  let advanced := advancePhaseLocked s RESULT_DELIVERED
  if !advanced.2 then (s,[])
  else Mealy.andThen (advanced.1,deliverResultLocked s errorCode Attributes.empty) endLocked

def disconnectExtension : Outcome :=
  let stop : List Output := if s.schedule then [.schedule .stopSchedule] else []
  if (s.para.widgetParam.hasContext && env.supportFollowCallerUi) || s.useModalApplication then
    (s,stop ++ if s.modalCallback then [.sendCommand ""] else [])
  else if !s.connection then (s,stop)
  else ({s with connection:=false},stop ++ [.disconnectAbility])

def stopAllRunTask (resultCode : ResultCode) : Outcome :=
  let cancels := s.runTaskInfoList.map fun taskInfo => Output.poolCancel taskInfo.taskId
  Mealy.andThen ({s with runTaskInfoList:=[]},cancels) fun s =>
    if resultCode != ResultCode.SUCCESS then disconnectExtension env s else (s,[])

def successSetters : List Setter :=
  [setInt32Value ATTR_AUTH_TYPE s.authResultInfo.authType] ++
    given (s.authResultInfo.token.length > 0) [setUint8ArrayValue ATTR_SIGNATURE s.authResultInfo.token] ++
    [setUint64Value ATTR_CREDENTIAL_DIGEST s.authResultInfo.credentialDigest,
      setUint16Value ATTR_CREDENTIAL_COUNT s.authResultInfo.credentialCount,
      setInt32Value ATTR_USER_ID s.authResultInfo.resultUserId]

def handleAuthSuccessResult : Attributes × Bool := Attributes.empty.setAll (successSetters s)

def deliverEndLocked (resultCode : ResultCode) : Outcome :=
  let advanced := advancePhaseLocked s RESULT_DELIVERED
  if !advanced.2 then (s,[])
  else
    let s := advanced.1
    if resultCode == ResultCode.SUCCESS || s.authResultInfo.token.length != 0 then
      let handled := handleAuthSuccessResult s
      if !handled.2 then (startOnTerminateTimer env s,deliverResultLocked s ResultCode.GENERAL_ERROR handled.1)
      else (startOnTerminateTimer env s,deliverResultLocked s resultCode handled.1)
    else (startOnTerminateTimer env s,deliverResultLocked s resultCode Attributes.empty)

-- The source's End.
def endWith (resultCode : ResultCode) : Outcome :=
  let advanced := advancePhaseLocked s STOPPING
  if !advanced.2 then (s,[])
  else Mealy.andThen (stopAllRunTask env advanced.1 resultCode) fun s =>
    Mealy.andThen (deliverEndLocked env s resultCode) fun s => tryEndLocked env s

-- What DeliverEndLocked hands to the caller.
def endResult (resultCode : ResultCode) : ResultCode × Attributes :=
  if resultCode == ResultCode.SUCCESS || s.authResultInfo.token.length != 0 then
    let handled := handleAuthSuccessResult s
    (if handled.2 then resultCode else ResultCode.GENERAL_ERROR,handled.1)
  else (resultCode,Attributes.empty)

theorem deliverEndLocked_open {s : WidgetContext} (before : s.phase < RESULT_DELIVERED) (resultCode : ResultCode) :
    deliverEndLocked env s resultCode = (startOnTerminateTimer env {s with phase:=RESULT_DELIVERED},
      deliverResultLocked s (endResult s resultCode).1 (endResult s resultCode).2) := by
  rw [deliverEndLocked,advance_taken before]
  simp only [endResult,Bool.not_true,Bool.false_eq_true,if_false]
  split
  · have same : handleAuthSuccessResult {s with phase:=RESULT_DELIVERED} = handleAuthSuccessResult s := rfl
    rw [same]
    cases (handleAuthSuccessResult s).2 <;> rfl
  · rfl

theorem deliverEndLocked_ended {s : WidgetContext} (reached : RESULT_DELIVERED ≤ s.phase) (resultCode : ResultCode) :
    deliverEndLocked env s resultCode = (s,[]) := by
  rw [deliverEndLocked,advance_refused reached]
  rfl

theorem endWith_open {s : WidgetContext} (before : s.phase < STOPPING) (resultCode : ResultCode) :
    endWith env s resultCode = Mealy.andThen (stopAllRunTask env {s with phase:=STOPPING} resultCode) fun s =>
      Mealy.andThen (deliverEndLocked env s resultCode) fun s => tryEndLocked env s := by
  rw [endWith,advance_taken before]
  rfl

theorem endWith_ended {s : WidgetContext} (reached : STOPPING ≤ s.phase) (resultCode : ResultCode) :
    endWith env s resultCode = (s,[]) := by
  rw [endWith,advance_refused reached]
  rfl

end Release

def setLatestError (s : WidgetContext) (error : ResultCode) : WidgetContext :=
  {s with latestError:=UserAuth.setLatestError s.latestError error}

section Launch
variable (env : Env) (s : WidgetContext)

-- Profiles read before the first failing one are kept.
def refreshAuthProfiles (authProfileMap : ExtTreeMap AuthType AuthProfile) :
    List AuthType → ExtTreeMap AuthType AuthProfile × Bool
  | [] => (authProfileMap,true)
  | authType :: rest =>
    let answer := env.profile authType
    if answer.1 != ResultCode.SUCCESS && answer.1 != ResultCode.NOT_ENROLLED then (authProfileMap,false)
    else refreshAuthProfiles (authProfileMap.insert authType answer.2) rest

def storeProfiles (authProfileMap : ExtTreeMap AuthType AuthProfile) : WidgetContext :=
  {s with para:={s.para with authProfileMap}}

def isSingleFaceOrFingerPrintAuth : Bool :=
  s.para.widgetParam.navigationButtonText.isEmpty &&
    (s.para.authTypeList == [AuthType.FACE] || s.para.authTypeList == [AuthType.FINGERPRINT])

def isNavigationAuth : Bool := !s.para.widgetParam.navigationButtonText.isEmpty

def isSingleCompanionDeviceAuth : Bool := s.para.authTypeList == [AuthType.COMPANION_DEVICE]

def isWidgetLaunchAllowed : Bool := !env.screenLocked || env.callerAllowedOnLockScreen

-- Looking a profile up makes a default one where there is none.
def lockedOut : WidgetContext × Bool :=
  if isSingleFaceOrFingerPrintAuth s && s.para.skipLockedBiometricAuth then
    let authType := s.para.authTypeList.headD AuthType.ALL
    let authProfileMap := s.para.authProfileMap.insertIfNew authType {}
    (storeProfiles s authProfileMap,(authProfileMap[authType]?.getD {}).remainTimes == 0)
  else (s,false)

def connectExtensionAbility (commandStr : String) : Outcome × Bool :=
  if s.connection then ((s,[]),false)
  else (({s with connection:=true},[.connectServiceExtensionAbility commandStr]),env.connectRet == 0)

def showWidget (widgetRotatePara : WidgetRotatePara) : Outcome × Bool :=
  match env.startCommand widgetRotatePara with
  | none => ((s,[]),false)
  | some commandData =>
    if commandData.isEmpty then ((s,[]),false)
    else if s.para.widgetParam.hasContext && env.supportFollowCallerUi then
      (({s with useModalApplication:=true},if s.modalCallback then [.sendCommand commandData] else []),true)
    else connectExtensionAbility env s commandData

def connectExtension (widgetRotatePara : WidgetRotatePara) : Outcome × Bool :=
  let refreshed := if widgetRotatePara.isReload then refreshAuthProfiles env s.para.authProfileMap s.para.authTypeList
    else (s.para.authProfileMap,true)
  let s := storeProfiles s refreshed.1
  if !refreshed.2 then ((s,[]),false)
  else
    let locked := lockedOut s
    if locked.2 then (endWith env locked.1 ResultCode.LOCKED,true)
    else if !isWidgetLaunchAllowed env then (endWith env locked.1 ResultCode.CANCELED,true)
    else showWidget env locked.1 widgetRotatePara

-- End is only called on the serial thread, which runs this, so that nothing
-- comes between the check and the connect.
def launchWidget : Outcome × Bool :=
  if s.phase ≥ STOPPING then ((s,[]),false)
  else
    let initFaceAlgo : List Output := if s.para.authTypeList.contains AuthType.FACE then [.initFaceAlgo] else []
    let connected := connectExtension env s {}
    ((connected.1.1,initFaceAlgo ++ connected.1.2),connected.2)

def isValidRotate (_ : WidgetRotatePara) : Bool := true

def authWidgetReload (orientation needRotate alreadyLoad : UInt32) (rotateAuthType : AuthType) : Outcome × Bool :=
  let widgetRotatePara : WidgetRotatePara := ⟨true,orientation,needRotate,alreadyLoad,rotateAuthType⟩
  let s := if alreadyLoad != 0 then {s with widgetAlreadyLoad:=1} else s
  if !isValidRotate widgetRotatePara then ((s,[]),false) else connectExtension env s widgetRotatePara

def authWidgetReloadInit : Outcome := disconnectExtension env s

def getRemoteAuthParam : List Output :=
  if s.remoteAuthCallback then [.onGetRemoteAuthWidgetParam s.para.challenge] else []

end Launch

section Children
variable (env : Env) (s : WidgetContext)

def TIP_CODE_FAIL : Int32 := 1
def TIP_CODE_TIMEOUT : Int32 := 2
def TIP_CODE_TEMPORARILY_LOCKED : Int32 := 3
def TIP_CODE_PERMANENTLY_LOCKED : Int32 := 4
def TIP_CODE_COMPARE_FAIL_WITH_FROZEN : Int32 := 7

def getAuthTipCode (authResult : ResultCode) (freezingTime : Int32) : Int32 :=
  if authResult == ResultCode.TIMEOUT then TIP_CODE_TIMEOUT
  else if authResult == ResultCode.LOCKED then
    if freezingTime == Int32.maxValue then TIP_CODE_PERMANENTLY_LOCKED else TIP_CODE_TEMPORARILY_LOCKED
  else if freezingTime > 0 then TIP_CODE_COMPARE_FAIL_WITH_FROZEN
  else TIP_CODE_FAIL

def onScheduleAuthTip (authType : AuthType) (tipCode : Int32) : List Output :=
  match Attributes.empty.set (setInt32Value ATTR_TIP_INFO tipCode) with
  | none => []
  | some attr => [.onAcquireInfo authType attr]

-- Where biometrics that are locked out are to be skipped.
def skipFrozen (authType : AuthType) (elsewhere : List Output) : Outcome :=
  if isSingleFaceOrFingerPrintAuth s then
    (setLatestError s ResultCode.LOCKED,[.schedule (.notifyAuthFail authType)])
  else if isNavigationAuth s then (s,[.schedule .naviPinAuth])
  else (s,elsewhere)

def storeAuthResult (authType : AuthType) (finalResult : Attributes) : WidgetContext :=
  {s with authResultInfo:={
    token := (finalResult.getUint8ArrayValue ATTR_SIGNATURE).getD s.authResultInfo.token
    credentialDigest := (finalResult.getUint64Value ATTR_CREDENTIAL_DIGEST).getD s.authResultInfo.credentialDigest
    credentialCount := (finalResult.getUint16Value ATTR_CREDENTIAL_COUNT).getD s.authResultInfo.credentialCount
    authType := authType
    resultUserId := s.para.userId}}

def procAuthResult (resultCode : ResultCode) (authType : AuthType) (freezingTime : Int32) (finalResult : Attributes) :
    Outcome :=
  if !s.schedule then (s,[])
  else if resultCode == ResultCode.SUCCESS || resultCode == ResultCode.COMPLEXITY_CHECK_FAILED then
    (setLatestError (storeAuthResult s authType finalResult) resultCode,
      .schedule (.notifyAuthSuccess authType) :: if s.isDirectAuth then [.schedule .clearSchedule] else [])
  else
    let s := setLatestError s resultCode
    if s.isDirectAuth then (s,[.schedule (.notifyAuthFail authType),.schedule .clearSchedule])
    else
      let tip := if resultCode != ResultCode.CANCELED then onScheduleAuthTip authType (getAuthTipCode resultCode freezingTime)
        else []
      let stop : List Output := [.schedule (.stopAuthList [authType])]
      Mealy.andThen (s,tip) fun s =>
        if s.para.skipLockedBiometricAuth && freezingTime > 0 then skipFrozen s authType stop else (s,stop)

def onChildAuthResult (resultCode : ResultCode) (authType : AuthType) (finalResult : Attributes) : Outcome :=
  let processed :=
    if s.phase == RELEASED then (s,[])
    else
      let remainTimes := (finalResult.getInt32Value ATTR_REMAIN_TIMES).getD (-1)
      let freezingTime := (finalResult.getInt32Value ATTR_FREEZING_TIME).getD (-1)
      Mealy.andThen (s,[.reportWidgetResult resultCode authType freezingTime remainTimes]) fun s =>
        procAuthResult s resultCode authType freezingTime finalResult
  Mealy.andThen processed fun s => onChildTerminated env s

def procAuthTipInfo (authType : AuthType) : Outcome :=
  if !s.schedule then (s,[])
  else match env.authTipInfo with
    | .refused _ _ => (s,[])
    | .answered (resultCode,freezingTime) =>
      if resultCode == ResultCode.SUCCESS then (s,[])
      else
        let tip := if resultCode != ResultCode.CANCELED then
          onScheduleAuthTip authType (getAuthTipCode resultCode freezingTime) else []
        Mealy.andThen (s,tip) fun s =>
          if s.para.skipLockedBiometricAuth && freezingTime > 0 then skipFrozen s authType [] else (s,[])

def onChildAuthTip (tipType : Int32) (authType : AuthType) (extraInfo : Attributes) : Outcome :=
  match extraInfo.getUint8ArrayValue ATTR_EXTRA_INFO with
  | none => (s,[])
  | some tipInfo => Mealy.andThen (s,[.reportWidgetTip tipType authType tipInfo]) fun s => procAuthTipInfo env s authType

-- The child's callback, where there is one, hands the failure back as a result.
def reportChildError (launch : ChildLaunch) (authType : AuthType) : Outcome :=
  if launch.widgetCallback || launch.iamCallback then
    onChildAuthResult env s ResultCode.GENERAL_ERROR authType Attributes.empty
  else onChildTerminated env s

def buildAuthenticationPara (authType : AuthType) (endAfterFirstFail : Bool) (authIntent : AuthIntent) :
    AuthenticationPara where
  tokenId := env.authTokenId
  userId := s.para.userId
  authType
  atl := s.para.atl
  challenge := s.para.challenge
  endAfterFirstFail
  callerName := s.para.callerName
  callerType := s.para.callerType
  sdkVersion := s.para.sdkVersion
  authIntent
  skipLockedBiometricAuth := s.para.skipLockedBiometricAuth
  isOsAccountVerified := s.para.isOsAccountVerified
  credentialIdList := s.para.credentialIdList
  title := s.para.widgetParam.title
  authScene := .AUTH_SCENE_WIDGET_AUTH_NO_DISTURB
  callerPermissions := s.para.callerPermissions

def buildTask (authType : AuthType) (endAfterFirstFail : Bool) (authIntent : AuthIntent) : Outcome × Option UInt64 :=
  let launch := env.child authType
  if !launch.iamCallback || !launch.widgetCallback then (reportChildError env s launch authType,none)
  else match launch.context with
    | none => (reportChildError env s launch authType,none)
    | some taskId =>
      let posted := (s,[Output.scheduleChild (buildAuthenticationPara env s authType endAfterFirstFail authIntent) taskId])
      if !launch.scheduled then (Mealy.andThen posted fun s => reportChildError env s launch authType,none)
      else (posted,some taskId)

def launchTask (authType : AuthType) (endAfterFirstFail : Bool) (authIntent : AuthIntent) : Outcome :=
  let built := buildTask env {s with activeChildCount:=s.activeChildCount + 1} authType endAfterFirstFail authIntent
  match built.2 with
  | none => built.1
  | some taskId => Mealy.andThen built.1 fun s =>
    let s := if authType == AuthType.FACE then {s with faceReload:=1} else s
    ({s with runTaskInfoList:=s.runTaskInfoList ++ [⟨authType,taskId⟩]},[])

def launchTasks (s : WidgetContext) (endAfterFirstFail : Bool) (authIntent : AuthIntent) : List AuthType → Outcome
  | [] => (s,[])
  | authType :: rest => Mealy.andThen (launchTask env s authType endAfterFirstFail authIntent) fun s =>
    launchTasks s endAfterFirstFail authIntent rest

-- The source's set of types, listed in its order.
def executeAuthList (authTypeList : List AuthType) (endAfterFirstFail : Bool) (authIntent : AuthIntent) : Outcome :=
  if s.phase ≥ STOPPING then (s,[]) else launchTasks env s endAfterFirstFail authIntent authTypeList

def stopAuthList (s : WidgetContext) : List AuthType → Outcome
  | [] => (s,[])
  | authType :: rest =>
    match s.runTaskInfoList.find? fun taskInfo => taskInfo.authType == authType with
    | none => stopAuthList s rest
    | some taskInfo =>
      Mealy.andThen ({s with runTaskInfoList:=s.runTaskInfoList.erase taskInfo},[.poolCancel taskInfo.taskId]) fun s =>
        stopAuthList s rest

end Children

section Events
variable (env : Env) (s : WidgetContext)

def onAuthSuccess : Outcome :=
  if s.latestError == ResultCode.COMPLEXITY_CHECK_FAILED then endWith env s ResultCode.TRUST_LEVEL_NOT_SUPPORT
  else endWith env s ResultCode.SUCCESS

def onAuthFail : Outcome := endWith env s s.latestError

def endAuthAsCancel : Outcome :=
  if s.latestError == ResultCode.COMPLEXITY_CHECK_FAILED then endWith env s ResultCode.TRUST_LEVEL_NOT_SUPPORT
  else if s.connection && env.onResultEnd then (s,[])
  else endWith env s ResultCode.CANCELED

def endAuthAsNaviPin : Outcome := endWith env s ResultCode.CANCELED_FROM_WIDGET

def endAuthAsWidgetParaInvalid : Outcome := endWith env s ResultCode.INVALID_PARAMETERS

def onScheduleAuthResult (resultCode : ResultCode) (authType : AuthType) (token : Bytes) : Outcome :=
  if resultCode != ResultCode.SUCCESS then endWith env s resultCode
  else
    let s := {s with authResultInfo:={s.authResultInfo with token,authType,resultUserId:=s.para.userId}}
    match env.enrolledState with
    | .refused code _ => endWith env s code
    | .answered enrolledState =>
      let authResultInfo := {s.authResultInfo with
        credentialCount:=enrolledState.credentialCount,credentialDigest:=enrolledState.credentialDigest &&& 0xFFFF}
      endWith env {s with authResultInfo} ResultCode.SUCCESS

def setRemoteAuthParam (widgetParam : WidgetParamInner) (modalCallback : Bool) : Outcome :=
  let s := {s with para:={s.para with widgetParam},modalCallback}
  (s,if s.schedule then [.schedule .startSchedule] else [])

-- The body of a start that was granted; the pool reports a false one through
-- OnStartFailed. A schedule just built and held takes every call.
def onStart : Outcome × Bool :=
  let refreshed := refreshAuthProfiles env s.para.authProfileMap s.para.authTypeList
  let s := storeProfiles s refreshed.1
  if !refreshed.2 then ((setLatestError s ResultCode.GENERAL_ERROR,[]),false)
  else if !env.scheduleCreated then ((s,[]),false)
  else
    let s := {s with schedule:=true,isDirectAuth:=isSingleCompanionDeviceAuth s}
    let calls : List Output :=
      if s.isDirectAuth then
        [.schedule (.startAuthList s.para.authTypeList false .DEFAULT),.schedule .startDirectAuth]
      else if s.remoteAuthCallback then [.schedule .getRemoteAuthParam]
      else [.schedule .startSchedule]
    ((s,.setWidgetSchedule :: calls),true)

def start : WidgetContext × Bool :=
  if s.phase != NOT_STARTED then
    if s.phase ≥ STOPPING then (s,true) else (setLatestError s ResultCode.GENERAL_ERROR,false)
  else ({(advancePhaseLocked s RUNNING).1 with starting:=true},true)

def onStop : Outcome := Mealy.andThen (endWith env s ResultCode.CANCELED) fun s => (s,[.clientClearSchedule])

def stop : Outcome :=
  if s.phase == NOT_STARTED then
    let advanced := advancePhaseLocked s STOPPING
    ({advanced.1 with stoppedBeforeStart:=advanced.2},[])
  else onStop env s

end Events

-- Every entry into the context, each in its own locked section.
inductive Call where
  | start
  | onStart
  | onStartFailed (errorCode : ResultCode)
  | stop
  | reportStopBeforeStart
  | launchWidget
  | executeAuthList (authTypeList : List AuthType) (endAfterFirstFail : Bool) (authIntent : AuthIntent)
  | stopAuthList (authTypeList : List AuthType)
  | onAuthSuccess
  | onAuthFail
  | endAuthAsCancel
  | endAuthAsNaviPin
  | endAuthAsWidgetParaInvalid
  | onScheduleAuthTip (authType : AuthType) (tipCode : Int32)
  | onScheduleAuthResult (resultCode : ResultCode) (authType : AuthType) (token : Bytes)
  | authWidgetReloadInit
  | authWidgetReload (orientation needRotate alreadyLoad : UInt32) (rotateAuthType : AuthType)
  | getRemoteAuthParam
  | clearSchedule
  | onChildAuthResult (resultCode : ResultCode) (authType : AuthType) (finalResult : Attributes)
  | onChildAuthTip (tipType : Int32) (authType : AuthType) (extraInfo : Attributes)
  | setRemoteAuthParam (widgetParam : WidgetParamInner) (modalCallback : Bool)
  | onTerminateTimerTimeOut

structure Input where
  call : Call
  env : Env

def step (s : WidgetContext) (input : Input) : Outcome :=
  let env := input.env
  match input.call with
  | .start => ((start s).1,[])
  | .onStart => if s.starting then (onStart env {s with starting:=false}).1 else (s,[])
  | .onStartFailed errorCode => onStartFailed s errorCode
  | .stop => stop env s
  | .reportStopBeforeStart =>
    if s.stoppedBeforeStart then onStartFailed {s with stoppedBeforeStart:=false} ResultCode.CANCELED else (s,[])
  | .launchWidget => (launchWidget env s).1
  | .executeAuthList authTypeList endAfterFirstFail authIntent =>
    executeAuthList env s authTypeList endAfterFirstFail authIntent
  | .stopAuthList authTypeList => stopAuthList s authTypeList
  | .onAuthSuccess => onAuthSuccess env s
  | .onAuthFail => onAuthFail env s
  | .endAuthAsCancel => endAuthAsCancel env s
  | .endAuthAsNaviPin => endAuthAsNaviPin env s
  | .endAuthAsWidgetParaInvalid => endAuthAsWidgetParaInvalid env s
  | .onScheduleAuthTip authType tipCode => (s,onScheduleAuthTip authType tipCode)
  | .onScheduleAuthResult resultCode authType token => onScheduleAuthResult env s resultCode authType token
  | .authWidgetReloadInit => authWidgetReloadInit env s
  | .authWidgetReload orientation needRotate alreadyLoad rotateAuthType =>
    (authWidgetReload env s orientation needRotate alreadyLoad rotateAuthType).1
  | .getRemoteAuthParam => (s,getRemoteAuthParam s)
  | .clearSchedule => clearSchedule env s
  | .onChildAuthResult resultCode authType finalResult => onChildAuthResult env s resultCode authType finalResult
  | .onChildAuthTip tipType authType extraInfo => onChildAuthTip env s tipType authType extraInfo
  | .setRemoteAuthParam widgetParam modalCallback => setRemoteAuthParam s widgetParam modalCallback
  | .onTerminateTimerTimeOut => onTerminateTimerTimeOut s

def machine : Mealy WidgetContext Input Output := ⟨step⟩

def create (para : AuthWidgetContextPara) (modalCallback remoteAuthCallback : Bool) : WidgetContext :=
  {para,modalCallback,remoteAuthCallback}

-- Nothing fails, and nothing is on the screen.
def fairEnv : Env where
  timerId := ⟨1,by decide⟩
  profile := fun _ => (ResultCode.SUCCESS,{})
  scheduleCreated := true
  authTokenId := 0
  child := fun _ => ⟨true,true,some 12,true⟩
  screenLocked := false
  callerAllowedOnLockScreen := false
  startCommand := fun _ => some "command"
  supportFollowCallerUi := false
  connectRet := 0
  onResultEnd := false
  enrolledState := .answered {}
  authTipInfo := .answered (ResultCode.SUCCESS,0)

def pinPara : ContextFactory.AuthWidgetContextPara :=
  {userId:=100,authTypeList:=[AuthType.PIN],widgetParam:={title:="title".toUTF8.data.toList,windowMode:=.DIALOG_BOX}}

end WidgetContext
end UserAuth
