import UserAuth.Base.FiniteStateMachine
import UserAuth.Widget.WidgetContext

namespace UserAuth
open Std WidgetContext

namespace WidgetScheduleNode

inductive State where
  | S_WIDGET_INIT | S_WIDGET_WAITING | S_WIDGET_AUTH_RUNNING | S_WIDGET_AUTH_FINISHED | S_WIDGET_RELOAD_WAITING
  | S_WIDGET_RELEASED | S_WIDGET_PARAM_WAITING
  deriving DecidableEq,Repr

inductive Event where
  | E_START_WIDGET | E_START_AUTH | E_UPDATE_AUTH | E_CANCEL_AUTH | E_COMPLETE_AUTH | E_NAVI_PIN_AUTH
  | E_WIDGET_PARA_INVALID | E_WIDGET_RELOAD | E_STOP_AUTH | E_WIDGET_RELEASE | E_START_DIRECT_AUTH
  | E_GET_REMOTE_AUTH_PARAM | E_NOTICE_COMPLETE_AUTH
  deriving DecidableEq,Repr

end WidgetScheduleNode

structure WidgetScheduleNodeImpl where
  successAuthType : AuthType := 0
  failAuthType : AuthType := 0
  startAuthTypeList : List AuthType := []
  endAfterFirstFail : Bool := false
  stopAuthTypeList : List AuthType := []
  runningAuthTypeSet : ExtTreeSet AuthType := ∅
  orientation : UInt32 := 0
  needRotate : UInt32 := 0
  alreadyLoad : UInt32 := 0
  rotateAuthType : AuthType := 0
  authIntent : AuthIntent := .DEFAULT
  resultCode : ResultCode := ResultCode.GENERAL_ERROR
  authToken : Bytes := []

-- What the client keeps about one session: whether its map has the session's
-- schedule, and whether the session is the one registered last.
structure WidgetClientEntry where
  scheduled : Bool := false
  current : Bool := false
  loadedAuthTypeList : List AuthType := []

namespace WidgetSession
open WidgetScheduleNode

structure Owner where
  context : WidgetContext
  node : WidgetScheduleNodeImpl := {}
  client : WidgetClientEntry := {}

abbrev Ran := Owner × List Event × List Output
abbrev Action := FsmAction WidgetContext.Env Owner Event Output

def TIP_CODE_WIDGET_LOADED : Int32 := 5
def TIP_CODE_WIDGET_RELEASED : Int32 := 6

def onWidgetTip (authTypeList : List AuthType) (tipCode : Int32) : List Output :=
  authTypeList.flatMap fun authType => onScheduleAuthTip authType tipCode

-- The node's own calls. Each writes its fields and queues an event.
def kick (owner : Owner) : ScheduleCall → Owner × List Event
  | .getRemoteAuthParam => (owner,[.E_GET_REMOTE_AUTH_PARAM])
  | .startSchedule => (owner,[.E_START_WIDGET])
  | .startDirectAuth => (owner,[.E_START_DIRECT_AUTH])
  | .stopSchedule => (owner,[.E_CANCEL_AUTH])
  | .clearSchedule => (owner,[.E_WIDGET_RELEASE])
  | .startAuthList authTypeList endAfterFirstFail authIntent =>
    ({owner with node:={owner.node with startAuthTypeList:=authTypeList,endAfterFirstFail,authIntent}},[.E_START_AUTH])
  | .stopAuthList authTypeList =>
    ({owner with node:={owner.node with stopAuthTypeList:=authTypeList}},[.E_UPDATE_AUTH])
  | .notifyAuthSuccess authType =>
    ({owner with node:={owner.node with successAuthType:=authType}},[.E_COMPLETE_AUTH])
  | .notifyAuthFail authType => ({owner with node:={owner.node with failAuthType:=authType}},[.E_STOP_AUTH])
  | .naviPinAuth => (owner,[.E_NAVI_PIN_AUTH])

def widgetReload (owner : Owner) (orientation needRotate alreadyLoad : UInt32) (rotateAuthType : AuthType) :
    Owner × List Event :=
  ({owner with node:={owner.node with orientation,needRotate,alreadyLoad,rotateAuthType}},[.E_WIDGET_RELOAD])

def onWidgetResult (owner : Owner) (resultCode : ResultCode) (authType : AuthType) (token : Bytes) : Owner × List Event :=
  let node := {owner.node with resultCode,authToken:=token}
  let node := if resultCode == ResultCode.SUCCESS then {node with successAuthType:=authType}
    else {node with failAuthType:=authType}
  ({owner with node},[.E_NOTICE_COMPLETE_AUTH])

def setWidgetSchedule (owner : Owner) : Owner :=
  {owner with client:={owner.client with scheduled:=true,current:=true}}

def clearSchedule (owner : Owner) : Ran :=
  if !owner.client.scheduled then (owner,[],[])
  else
    let client : WidgetClientEntry := if owner.client.current then {} else {owner.client with scheduled:=false}
    ({owner with client},[.E_CANCEL_AUTH,.E_WIDGET_RELEASE],
      if owner.client.current then onWidgetTip owner.client.loadedAuthTypeList TIP_CODE_WIDGET_RELEASED else [])

-- What a handler of the context sends out goes on to the node and the client.
def take (owner : Owner) : Output → Ran
  | .schedule call => ((kick owner call).1,(kick owner call).2,[])
  | .setWidgetSchedule => (setWidgetSchedule owner,[],[])
  | .clientClearSchedule => clearSchedule owner
  | _ => (owner,[],[])

def route (owner : Owner) : List Output → Ran
  | [] => (owner,[],[])
  | output :: rest =>
    let taken := take owner output
    let later := route taken.1 rest
    (later.1,taken.2.1 ++ later.2.1,output :: (taken.2.2 ++ later.2.2))

def run (owner : Owner) (outcome : Outcome) : Ran := route {owner with context:=outcome.1} outcome.2

-- A handler that fails makes the schedule cancel itself.
def runOrCancel (owner : Owner) (outcome : Outcome × Bool) : Ran :=
  let ran := run owner outcome.1
  if outcome.2 then ran else (ran.1,ran.2.1 ++ [.E_CANCEL_AUTH],ran.2.2)

def onGetRemoteAuthParam : Action := fun _ owner => run owner (owner.context,getRemoteAuthParam owner.context)
def onStartSchedule : Action := fun env owner => runOrCancel owner (launchWidget env owner.context)
def onStopSchedule : Action := fun env owner => run owner (endAuthAsCancel env owner.context)

-- Only types that are not running yet are started.
def onStartAuth : Action := fun env owner =>
  let startAuthTypeSet : ExtTreeSet AuthType :=
    .ofList (owner.node.startAuthTypeList.filter fun authType => !owner.node.runningAuthTypeSet.contains authType)
  let runningAuthTypeSet := owner.node.runningAuthTypeSet.insertMany startAuthTypeSet.toList
  run {owner with node:={owner.node with runningAuthTypeSet}}
    (executeAuthList env owner.context startAuthTypeSet.toList owner.node.endAfterFirstFail owner.node.authIntent)

def onStartDirectAuth : Action := onStartAuth

def onStopAuthList : Action := fun _ owner =>
  let runningAuthTypeSet := owner.node.runningAuthTypeSet.eraseMany owner.node.stopAuthTypeList
  run {owner with node:={owner.node with runningAuthTypeSet}} (stopAuthList owner.context owner.node.stopAuthTypeList)

def onSuccessAuth : Action := fun env owner =>
  let runningAuthTypeSet := owner.node.runningAuthTypeSet.erase owner.node.successAuthType
  run {owner with node:={owner.node with runningAuthTypeSet}} (onAuthSuccess env owner.context)

def onFailAuth : Action := fun env owner =>
  let runningAuthTypeSet := owner.node.runningAuthTypeSet.erase owner.node.failAuthType
  run {owner with node:={owner.node with runningAuthTypeSet}} (onAuthFail env owner.context)

def onNaviPinAuth : Action := fun env owner => run owner (endAuthAsNaviPin env owner.context)
def onWidgetParaInvalid : Action := fun env owner => run owner (endAuthAsWidgetParaInvalid env owner.context)
def onWidgetReloadInit : Action := fun env owner => run owner (authWidgetReloadInit env owner.context)

def onWidgetReload : Action := fun env owner =>
  runOrCancel owner (authWidgetReload env owner.context owner.node.orientation owner.node.needRotate
    owner.node.alreadyLoad owner.node.rotateAuthType)

def onWidgetRelease : Action := fun env owner => run owner (WidgetContext.clearSchedule env owner.context)

def onSendAuthResult : Action := fun env owner =>
  let authType := if owner.node.resultCode == ResultCode.SUCCESS then owner.node.successAuthType
    else owner.node.failAuthType
  run owner (onScheduleAuthResult env owner.context owner.node.resultCode authType owner.node.authToken)

def transitionMap : State → Event → Option (State × Action)
  | .S_WIDGET_INIT,.E_GET_REMOTE_AUTH_PARAM => some (.S_WIDGET_PARAM_WAITING,onGetRemoteAuthParam)
  | .S_WIDGET_INIT,.E_START_WIDGET => some (.S_WIDGET_WAITING,onStartSchedule)
  | .S_WIDGET_INIT,.E_START_DIRECT_AUTH => some (.S_WIDGET_AUTH_RUNNING,onStartDirectAuth)
  | .S_WIDGET_INIT,.E_WIDGET_RELEASE => some (.S_WIDGET_RELEASED,onWidgetRelease)
  | .S_WIDGET_WAITING,.E_START_AUTH => some (.S_WIDGET_AUTH_RUNNING,onStartAuth)
  | .S_WIDGET_WAITING,.E_CANCEL_AUTH => some (.S_WIDGET_AUTH_FINISHED,onStopSchedule)
  | .S_WIDGET_WAITING,.E_NAVI_PIN_AUTH => some (.S_WIDGET_AUTH_FINISHED,onNaviPinAuth)
  | .S_WIDGET_WAITING,.E_NOTICE_COMPLETE_AUTH => some (.S_WIDGET_AUTH_FINISHED,onSendAuthResult)
  | .S_WIDGET_WAITING,.E_WIDGET_PARA_INVALID => some (.S_WIDGET_AUTH_FINISHED,onWidgetParaInvalid)
  | .S_WIDGET_WAITING,.E_WIDGET_RELOAD => some (.S_WIDGET_RELOAD_WAITING,onWidgetReloadInit)
  | .S_WIDGET_WAITING,.E_WIDGET_RELEASE => some (.S_WIDGET_RELEASED,onWidgetRelease)
  | .S_WIDGET_AUTH_RUNNING,.E_COMPLETE_AUTH => some (.S_WIDGET_AUTH_FINISHED,onSuccessAuth)
  | .S_WIDGET_AUTH_RUNNING,.E_NOTICE_COMPLETE_AUTH => some (.S_WIDGET_AUTH_FINISHED,onSendAuthResult)
  | .S_WIDGET_AUTH_RUNNING,.E_STOP_AUTH => some (.S_WIDGET_AUTH_FINISHED,onFailAuth)
  | .S_WIDGET_AUTH_RUNNING,.E_CANCEL_AUTH => some (.S_WIDGET_AUTH_FINISHED,onStopSchedule)
  | .S_WIDGET_AUTH_RUNNING,.E_NAVI_PIN_AUTH => some (.S_WIDGET_AUTH_FINISHED,onNaviPinAuth)
  | .S_WIDGET_AUTH_RUNNING,.E_START_AUTH => some (.S_WIDGET_AUTH_RUNNING,onStartAuth)
  | .S_WIDGET_AUTH_RUNNING,.E_UPDATE_AUTH => some (.S_WIDGET_AUTH_RUNNING,onStopAuthList)
  | .S_WIDGET_AUTH_RUNNING,.E_WIDGET_PARA_INVALID => some (.S_WIDGET_AUTH_FINISHED,onWidgetParaInvalid)
  | .S_WIDGET_AUTH_RUNNING,.E_WIDGET_RELOAD => some (.S_WIDGET_RELOAD_WAITING,onWidgetReloadInit)
  | .S_WIDGET_AUTH_RUNNING,.E_WIDGET_RELEASE => some (.S_WIDGET_RELEASED,onWidgetRelease)
  | .S_WIDGET_RELOAD_WAITING,.E_CANCEL_AUTH => some (.S_WIDGET_WAITING,onWidgetReload)
  | .S_WIDGET_RELOAD_WAITING,.E_WIDGET_RELEASE => some (.S_WIDGET_RELEASED,onWidgetRelease)
  | .S_WIDGET_PARAM_WAITING,.E_START_WIDGET => some (.S_WIDGET_WAITING,onStartSchedule)
  | .S_WIDGET_PARAM_WAITING,.E_CANCEL_AUTH => some (.S_WIDGET_RELEASED,onStopSchedule)
  | .S_WIDGET_AUTH_FINISHED,.E_WIDGET_RELEASE => some (.S_WIDGET_RELEASED,onWidgetRelease)
  | _,_ => none

def table : FsmTable WidgetContext.Env Owner State Event Output :=
  ⟨transitionMap,fun _ => FiniteStateMachineImpl.noAction⟩

-- Calls that reach the context from elsewhere than its schedule.
inductive OutsideCall where
  | start
  | onStart
  | onStartFailed (errorCode : ResultCode)
  | stop
  | reportStopBeforeStart
  | onChildAuthResult (resultCode : ResultCode) (authType : AuthType) (finalResult : Attributes)
  | onChildAuthTip (tipType : Int32) (authType : AuthType) (extraInfo : Attributes)
  | setRemoteAuthParam (widgetParam : WidgetParamInner) (modalCallback : Bool)
  | onTerminateTimerTimeOut

def OutsideCall.toCall : OutsideCall → Call
  | .start => .start
  | .onStart => .onStart
  | .onStartFailed errorCode => .onStartFailed errorCode
  | .stop => .stop
  | .reportStopBeforeStart => .reportStopBeforeStart
  | .onChildAuthResult resultCode authType finalResult => .onChildAuthResult resultCode authType finalResult
  | .onChildAuthTip tipType authType extraInfo => .onChildAuthTip tipType authType extraInfo
  | .setRemoteAuthParam widgetParam modalCallback => .setRemoteAuthParam widgetParam modalCallback
  | .onTerminateTimerTimeOut => .onTerminateTimerTimeOut

inductive NoticeEvent where
  | NOTICE_EVENT_AUTH_READY | NOTICE_EVENT_CANCEL_AUTH | NOTICE_EVENT_USER_NAVIGATION | NOTICE_EVENT_WIDGET_PARA_INVALID
  | NOTICE_EVENT_END | NOTICE_EVENT_RELOAD | NOTICE_EVENT_AUTH_WIDGET_LOADED | NOTICE_EVENT_AUTH_WIDGET_RELEASED
  | NOTICE_EVENT_PROCESS_TERMINATE | NOTICE_EVENT_AUTH_SEND_TIP | NOTICE_EVENT_COMPLETE_AUTH
  deriving DecidableEq,Repr

structure WidgetNotice where
  event : NoticeEvent
  orientation : UInt32 := 0
  needRotate : UInt32 := 0
  alreadyLoad : UInt32 := 0
  endAfterFirstFail : Bool := false
  authIntent : AuthIntent := .DEFAULT
  tipCode : Int32 := 0
  resultCode : ResultCode := ResultCode.GENERAL_ERROR
  authToken : Bytes := []

def kicked (moved : Owner × List Event) : Ran := (moved.1,moved.2,[])

def widgetLoad (owner : Owner) (authTypeList : List AuthType) : Ran :=
  if !owner.client.current then (owner,[],[])
  else ({owner with client:={owner.client with loadedAuthTypeList:=authTypeList}},[],
    onWidgetTip authTypeList TIP_CODE_WIDGET_LOADED)

def widgetRelease (owner : Owner) (authTypeList : List AuthType) : Ran :=
  let client := if owner.client.current then {owner.client with loadedAuthTypeList:=[]} else owner.client
  ({owner with client},[],onWidgetTip authTypeList TIP_CODE_WIDGET_RELEASED)

-- A notice for this session that has passed OnNotice's checks, with the types
-- that GetAuthTypeList made of it.
def processNotice (owner : Owner) (notice : WidgetNotice) (authTypeList : List AuthType) : Ran :=
  if !owner.client.scheduled then (owner,[],[])
  else match notice.event with
    | .NOTICE_EVENT_AUTH_READY => kicked (kick owner (.startAuthList authTypeList notice.endAfterFirstFail notice.authIntent))
    | .NOTICE_EVENT_CANCEL_AUTH =>
      if authTypeList == [AuthType.ALL] then kicked (kick owner .stopSchedule)
      else kicked (kick owner (.stopAuthList authTypeList))
    | .NOTICE_EVENT_USER_NAVIGATION => kicked (kick owner .naviPinAuth)
    | .NOTICE_EVENT_WIDGET_PARA_INVALID => (owner,[.E_WIDGET_PARA_INVALID],[])
    | .NOTICE_EVENT_END => kicked (kick owner (.stopAuthList authTypeList))
    | .NOTICE_EVENT_RELOAD =>
      match authTypeList with
      | [authType] =>
        if authType == AuthType.ALL then (owner,[.E_WIDGET_PARA_INVALID],[])
        else kicked (widgetReload owner notice.orientation notice.needRotate notice.alreadyLoad authType)
      | _ => (owner,[.E_WIDGET_PARA_INVALID],[])
    | .NOTICE_EVENT_AUTH_WIDGET_LOADED => widgetLoad owner authTypeList
    | .NOTICE_EVENT_AUTH_WIDGET_RELEASED => widgetRelease owner authTypeList
    | .NOTICE_EVENT_PROCESS_TERMINATE => clearSchedule owner
    | .NOTICE_EVENT_AUTH_SEND_TIP => (owner,[],onWidgetTip authTypeList notice.tipCode)
    | .NOTICE_EVENT_COMPLETE_AUTH =>
      match authTypeList with
      | [] => (owner,[],[])
      | authType :: _ => kicked (onWidgetResult owner notice.resultCode authType notice.authToken)

-- Without a session named, the one registered last is stopped.
def forceStopAuth (owner : Owner) : Ran :=
  if !owner.client.current then (owner,[],[])
  else
    let cleared := clearSchedule owner
    (cleared.1,.E_CANCEL_AUTH :: cleared.2.1,cleared.2.2)

inductive Input where
  -- One turn of the schedule's state machine.
  | scheduleInner (env : WidgetContext.Env)
  | context (call : OutsideCall) (env : WidgetContext.Env)
  | notice (notice : WidgetNotice) (authTypeList : List AuthType)
  | forceStopAuth
  | forceStopAuthOf
  -- Another session registers with the client, or leaves it.
  | clientMoved (loadedAuthTypeList : List AuthType)

end WidgetSession

abbrev WidgetSession := FiniteStateMachineImpl WidgetSession.Owner WidgetScheduleNode.State WidgetScheduleNode.Event

namespace WidgetSession
open WidgetScheduleNode

def queue (s : WidgetSession) (ran : Ran) : WidgetSession × List Output :=
  ({s with owner:=ran.1,pendingEvents:=s.pendingEvents ++ ran.2.1},ran.2.2)

def step (s : WidgetSession) : Input → WidgetSession × List Output
  | .scheduleInner env => FiniteStateMachineImpl.scheduleInner table env s
  | .context call env => queue s (run s.owner (WidgetContext.step s.owner.context ⟨call.toCall,env⟩))
  | .notice notice authTypeList => queue s (processNotice s.owner notice authTypeList)
  | .forceStopAuth => queue s (forceStopAuth s.owner)
  | .forceStopAuthOf => queue s (clearSchedule s.owner)
  | .clientMoved loadedAuthTypeList =>
    ({s with owner:={s.owner with client:={s.owner.client with current:=false,loadedAuthTypeList}}},[])

def machine : Mealy WidgetSession Input Output := ⟨step⟩

def create (context : WidgetContext) : WidgetSession := ⟨.S_WIDGET_INIT,[],{context}⟩

end WidgetSession
end UserAuth
