import UserAuth.Common.TypedValue
import UserAuth.Contexts.BaseContext
import UserAuth.Contexts.SimpleAuth
import UserAuth.Remote.ConnectListener
import UserAuth.Remote.RemoteMessage
import UserAuth.Schedule.ScheduleRun

namespace UserAuth
open Attributes

def QUERY_EXECUTOR_INFO : Int32 := 4
def ATTR_EXECUTOR_ROLE : AttributeKey := 100063
def ATTR_AUTH_TYPES : AttributeKey := 100074

structure RemoteAuthContextParam where
  authType : AuthType := AuthType.PIN
  connectionName : Bytes := []
  collectorNetworkId : Bytes := []
  executorInfoMsg : Bytes := []

structure RemoteAuthContext where
  authType : AuthType
  connectionName : Bytes
  collectorNetworkId : Bytes
  executorInfoMsg : Bytes
  needSetupConnection : Bool
  tokenId : UInt32
  auth : AuthenticationImpl
  base : BaseContext := {}
  -- Every node started for it, the last of them in scheduleList_. Each holds the
  -- context until it has reported.
  schedules : List ScheduleNodeImpl := []
  cancelTimer : Bool := false
  -- StartAuthDelayed tasks posted and not run.
  delayed : Nat := 0
  -- Results whose schedule Finish has selected and not told yet.
  finishing : List (Nat × ResultCode × Option Attributes) := []

namespace RemoteAuthContext

inductive Output where
  | registerTimer
  | registerConnectionListener (connectionName endPointName : Bytes)
  | openConnection (connectionName networkId : Bytes) (tokenId : UInt32)
  | sendMessage (connectionName srcEndPoint destEndPoint : Bytes) (request : Attributes)
  | simple (output : SimpleAuthContext.Output)
  | onResult (resultCode : ResultCode) (attr : Attributes)

abbrev Outcome := RemoteAuthContext × List Output

def create (param : RemoteAuthContextParam) (tokenId : UInt32) (auth : AuthenticationImpl) : RemoteAuthContext where
  authType := param.authType
  connectionName := param.connectionName
  collectorNetworkId := param.collectorNetworkId
  executorInfoMsg := param.executorInfoMsg
  needSetupConnection := param.executorInfoMsg.length == 0
  tokenId := tokenId
  auth := auth

-- How many executors the message names, whether the first one's proxy starts,
-- and what the devices and the engine answer.
structure StartAuthEnv where
  executorInfos : Bytes → Option Nat
  startExecutorRet : ResultCode
  collectorUdid : Option Bytes
  localUdid : Bool
  begin : EngineReply Bool
  expires : Bool

structure StartEnv where
  registerResult : ResultCode
  connectResult : ResultCode
  auth : StartAuthEnv

def authStart (s : RemoteAuthContext) (reply : EngineReply Bool) (expires : Bool) : RemoteAuthContext × Bool :=
  if reply.value false then
    let schedules := s.schedules ++ [(ScheduleNodeImpl.create expires).startSchedule]
    ({s with auth:={s.auth with running:=true},schedules},true)
  else
    let auth := {s.auth with latestError:=setLatestError s.auth.latestError reply.code}
    ({s with auth,base:={s.base with latestError:=setLatestError s.base.latestError auth.latestError}},false)

def startAuth (s : RemoteAuthContext) (env : StartAuthEnv) : RemoteAuthContext × Bool :=
  if s.executorInfoMsg.length == 0 then (s,false)
  else match env.executorInfos s.executorInfoMsg with
    | none => (s,false)
    | some executorInfos =>
      if executorInfos == 0 || env.startExecutorRet != ResultCode.SUCCESS || env.collectorUdid.isNone ||
          !env.localUdid then
        (s,false)
      else authStart s env.begin env.expires

def setupConnection (s : RemoteAuthContext) (env : StartEnv) : Outcome × Bool :=
  let register := Output.registerConnectionListener s.connectionName REMOTE_AUTH_CONTEXT_ENDPOINT_NAME
  let openConnection := Output.openConnection s.connectionName s.collectorNetworkId s.tokenId
  if env.registerResult != ResultCode.SUCCESS then ((s,[register]),false)
  else if env.connectResult != ResultCode.SUCCESS then
    let base := {s.base with latestError:=setLatestError s.base.latestError ResultCode.REMOTE_DEVICE_CONNECTION_FAIL}
    (({s with base},[register,openConnection]),false)
  else ((s,[register,openConnection]),true)

def onStart (s : RemoteAuthContext) (env : StartEnv) : Outcome × Bool :=
  let s := {s with cancelTimer:=true}
  if s.needSetupConnection then
    let connected := setupConnection s env
    ((connected.1.1,.registerTimer :: connected.1.2),connected.2)
  else
    let started := startAuth s env.auth
    ((started.1,[.registerTimer]),started.2)

def onStartFailed (s : RemoteAuthContext) (errorCode : ResultCode) : Outcome :=
  let failed := s.base.onStartFailed errorCode
  ({s with base:=failed.1},match failed.2 with
    | none => []
    | some code => [.onResult code Attributes.empty])

-- Start, and what the pool does when it fails.
def start (s : RemoteAuthContext) (env : StartEnv) : Outcome :=
  let started := s.base.start
  let s := {s with base:=started.1}
  if !started.2 then onStartFailed s s.base.latestError
  else
    let started := onStart s env
    if !started.2 then Mealy.andThen started.1 fun s => onStartFailed s s.base.latestError else started.1

-- SimpleAuthContext's OnStop, which waits for the schedule to report.
def onStop (s : RemoteAuthContext) (reply : EngineReply Unit) : RemoteAuthContext :=
  let schedules := s.schedules.modify (s.schedules.length - 1) (·.stopSchedule ResultCode.CANCELED)
  let cancelled := s.auth.cancel reply
  if !cancelled.2 then
    let base := {s.base with latestError:=setLatestError s.base.latestError cancelled.1.latestError}
    {s with schedules,auth:=cancelled.1,base}
  else {s with schedules,auth:=cancelled.1}

def stop (s : RemoteAuthContext) (reply : EngineReply Unit) : Outcome :=
  let stopped := s.base.stop
  let s := {s with base:=stopped.1}
  match stopped.2 with
  | .alreadyRequested => (s,[])
  | .beforeStart => onStartFailed s ResultCode.CANCELED
  | .onStop => (onStop s reply,[])

def onTimeOut (s : RemoteAuthContext) : Outcome := (s,[.onResult ResultCode.TIMEOUT Attributes.empty])

def querySetters (s : RemoteAuthContext) : List Setter :=
  [setInt32Value ATTR_MSG_TYPE QUERY_EXECUTOR_INFO,setInt32ArrayValue ATTR_AUTH_TYPES [s.authType],
    setInt32Value ATTR_EXECUTOR_ROLE ExecutorRole.COLLECTOR]

def sendQueryExecutorInfoMsg (s : RemoteAuthContext) (localUdid : Bool) (sendMsgRet : ResultCode) :
    List Output × Bool :=
  let request := Attributes.empty.setAll s.querySetters
  if !request.2 || !localUdid then ([],false)
  else ([.sendMessage s.connectionName REMOTE_AUTH_CONTEXT_ENDPOINT_NAME REMOTE_SERVICE_ENDPOINT request.1],
    sendMsgRet == ResultCode.SUCCESS)

def onConnectStatus (s : RemoteAuthContext) (connectionName : Bytes) (status : ConnectStatus) (localUdid : Bool)
    (sendMsgRet : ResultCode) : Outcome :=
  if s.connectionName != connectionName then (s,[])
  else match status with
    | .DISCONNECTED => (s,[.onResult ResultCode.REMOTE_DEVICE_CONNECTION_FAIL Attributes.empty])
    | .CONNECTED =>
      let sent := sendQueryExecutorInfoMsg s localUdid sendMsgRet
      (s,sent.1 ++ if !sent.2 then [.onResult ResultCode.GENERAL_ERROR Attributes.empty] else [])

-- The callback of the QUERY_EXECUTOR_INFO message.
def onQueryReply (s : RemoteAuthContext) (reply : Attributes) : Outcome :=
  match reply.getInt32Value ATTR_RESULT_CODE with
  | none => (s,[])
  | some resultCode =>
    if resultCode != ResultCode.SUCCESS then (s,[.onResult resultCode Attributes.empty])
    else ({s with executorInfoMsg:=reply.serialize,delayed:=s.delayed + 1},[])

def startAuthDelayed (s : RemoteAuthContext) (env : StartAuthEnv) : Outcome :=
  let started := startAuth s env
  (started.1,if !started.2 then [.onResult started.1.base.latestError Attributes.empty] else [])

-- A turn of a schedule's machine, which calls OnResult on the context.
def scheduleInner (s : RemoteAuthContext) (schedule : Nat) (env : ScheduleNode.Env)
    (answers : SimpleAuthContext.ResultAnswers) : Outcome :=
  match s.schedules[schedule]? with
  | none => (s,[])
  | some node =>
    let moved := FiniteStateMachineImpl.scheduleInner ScheduleNode.table env node
    let told :=
      SimpleAuthContext.onEffects answers ⟨s.auth,s.base.latestError,s.base.startFailDelivered,moved.1⟩ moved.2
    let schedules := s.schedules.set schedule told.1.node
    ({s with auth:=told.1.auth,base:={s.base with latestError:=told.1.latestError},schedules},told.2.map .simple)

-- The tasks and callbacks that lead into a context.
inductive Handler where
  | start (env : StartEnv)
  | stop (reply : EngineReply Unit)
  | timeOut
  | connectStatus (connectionName : Bytes) (status : ConnectStatus) (localUdid : Bool) (sendMsgRet : ResultCode)
  | queryReply (reply : Attributes)
  | startAuthDelayed (env : StartAuthEnv)
  | scheduleInner (schedule : Nat) (env : ScheduleNode.Env) (answers : SimpleAuthContext.ResultAnswers)

namespace Handler

-- Posted tasks and timers run on the service's one thread. The connection brings
-- replies on its own.
def posted : Handler → Bool
  | .queryReply _ => false
  | _ => true

-- These look the context up in the pool, the others lock a weak reference.
def selected : Handler → Bool
  | .start _ | .stop _ => true
  | _ => false

end Handler

def act (s : RemoteAuthContext) : Handler → Outcome
  | .start env => start s env
  | .stop reply => stop s reply
  | .timeOut => if s.cancelTimer then onTimeOut s else (s,[])
  | .connectStatus connectionName status localUdid sendMsgRet =>
    onConnectStatus s connectionName status localUdid sendMsgRet
  | .queryReply reply => onQueryReply s reply
  | .startAuthDelayed env => if s.delayed = 0 then (s,[]) else startAuthDelayed {s with delayed:=s.delayed - 1} env
  | .scheduleInner schedule env answers => scheduleInner s schedule env answers

-- A timer that is set, a task that is posted, an event for the schedule's machine.
def ready (s : RemoteAuthContext) : Handler → Bool
  | .timeOut => s.cancelTimer
  | .startAuthDelayed _ => s.delayed != 0
  | .scheduleInner schedule _ _ => s.schedules[schedule]?.any (!·.pendingEvents.isEmpty)
  | _ => true

-- What reaches the schedules from their executors, their own timer and the pool
-- of executors.
inductive Posted where
  | finish (schedule : Nat) (resultCode : ResultCode) (finalResult : Option Attributes)
  | continueSchedule (position : Nat)
  | scheduleTimeOut (schedule : Nat)
  | executorDeleted (schedule : Nat)

-- Finish looks the schedule up among the contexts in the pool and goes on with
-- what it has found, whatever becomes of the context in between.
def post (owned : Bool) (s : RemoteAuthContext) : Posted → RemoteAuthContext
  | .finish schedule resultCode finalResult =>
    if owned && schedule + 1 == s.schedules.length then
      {s with finishing:=s.finishing ++ [(schedule,resultCode,finalResult)]}
    else s
  | .continueSchedule position =>
    match s.finishing[position]? with
    | none => s
    | some (schedule,resultCode,finalResult) =>
      let schedules := s.schedules.modify schedule (·.continueSchedule resultCode finalResult)
      {s with schedules,finishing:=s.finishing.eraseIdx position}
  | .scheduleTimeOut schedule => {s with schedules:=s.schedules.modify schedule (·.timeOut)}
  | .executorDeleted schedule =>
    {s with schedules:=s.schedules.modify schedule (·.stopSchedule ResultCode.GENERAL_ERROR)}

def isResult : Output → Bool
  | .onResult _ _ | .simple (.report _) => true
  | _ => false

def results (outputs : List Output) : Nat := outputs.countP isResult

end RemoteAuthContext
end UserAuth
