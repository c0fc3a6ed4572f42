import UserAuth.Lib.Mealy
import UserAuth.Remote.RemoteExecutorStub

namespace UserAuth
open Attributes RemoteConnectListenerManager Std

namespace MessageType
def BEGIN_EXECUTE : Int32 := 5
def END_EXECUTE : Int32 := 6
def SEND_DATA_TO_EXECUTOR : Int32 := 7
def EXECUTOR_FINISH : Int32 := 8
def EXECUTOR_SEND_DATA : Int32 := 9
end MessageType

structure RemoteExecutorProxy where
  ref : Nat
  connectionName : Bytes
  messenger : Bool
  deriving DecidableEq,Repr

structure Execution where
  executorIndex : UInt64
  scheduleId : UInt64
  origin : Origin
  deriving DecidableEq,Repr

inductive TouchKind where
  | ended | finished | delivered
  deriving DecidableEq,Repr

-- What a message received on `connectionName` did, and to a thing of which origin.
structure Touch where
  connectionName : Bytes
  kind : TouchKind
  origin : Origin
  deriving DecidableEq,Repr

-- The service with the proxies of the other role and with the executions that
-- schedules of this device have at its executors.
structure RemoteSystem extends RemoteAuthService where
  proxies : List RemoteExecutorProxy
  executions : List Execution

inductive RemoteOp where
  | receive (message : Attributes) (answers : BeginAnswers)
  | endExecute (request : Attributes) (removing : PreemptAnswers)
  | connectionDown (connectionName : Bytes)
  | listen (key : ListenerKey) (ref : Nat)
  | unlisten (key : ListenerKey)
  | startProxy (connectionName : Bytes)
  | messengerReady (ref : Nat)
  | destroyProxy (ref : Nat)
  | setScheduleList (ref : Nat) (schedules : List LiveSchedule)
  | beginExecution (execution : Execution)
  | endExecution (execution : Execution)
  | pool (op : PoolOp)

namespace RemoteSystem

def initial : RemoteSystem where
  scheduleId2executorStub := ∅
  listeners := [⟨⟨GLOBAL_CONNECTION_NAME,REMOTE_SERVICE_ENDPOINT⟩,.remoteAuthService⟩]
  contextPool := .initial
  scheduleNodes _ := []
  nextRef := 0
  proxies := []
  executions := []

-- The connection and the endpoint that a request names, where it is one.
def parseMessage (message : Attributes) : Option (Bytes × Bytes) :=
  match message.getUint32Value ATTR_MSG_SEQ_NUM,message.getBoolValue ATTR_MSG_ACK,
    message.getStringValue ATTR_MSG_SRC_END_POINT,message.getStringValue ATTR_MSG_DEST_END_POINT,
    message.getStringValue ATTR_CONNECTION_NAME,message.getUint32Value ATTR_MSG_VERSION with
  | some _,some false,some _,some destEndPoint,some connectionName,some version =>
    if version != DEFAULT_MESSAGE_VERSION then none else some (connectionName,destEndPoint)
  | _,_,_,_,_,_ => none

def selectScheduleNodeByScheduleId (s : RemoteSystem) (scheduleId : UInt64) : Option LiveSchedule :=
  s.contextPool.pool.runningContexts.findSome? fun context =>
    (s.scheduleNodes context.ref).find? (·.scheduleId == scheduleId)

def liveStub (s : RemoteSystem) (ref : Nat) : Option RemoteExecutorStub :=
  (s.scheduleId2executorStub.toList.map Prod.snd).find? (·.ref == ref)

-- Whose execution an executor takes the data for.
def executionsAt (s : RemoteSystem) (executorIndex scheduleId : UInt64) : List Origin :=
  ((s.scheduleId2executorStub.toList.map Prod.snd).filter fun stub =>
      stub.executorIndex == executorIndex && stub.remoteScheduleNode == some scheduleId).map
      (fun stub => .connection stub.connectionName) ++
    (s.executions.filter fun execution =>
      execution.executorIndex == executorIndex && execution.scheduleId == scheduleId).map Execution.origin

-- RemoteAuthServiceImpl::OnMessage
def serviceMessage (s : RemoteSystem) (connectionName : Bytes) (request : Attributes) (answers : BeginAnswers) :
    RemoteSystem × List Touch :=
  match request.getInt32Value ATTR_MSG_TYPE with
  | none => (s,[])
  | some msgType =>
    if msgType == MessageType.BEGIN_EXECUTE then
      ({s with toRemoteAuthService:=(s.procBeginExecuteRequest request answers).1},[])
    else if msgType == MessageType.END_EXECUTE then
      ({s with toRemoteAuthService:=(s.procEndExecuteRequest request answers.removing).1},
        ((request.getUint64Value ATTR_SCHEDULE_ID).bind (s.scheduleId2executorStub[·]?)).toList.map fun stub =>
          ⟨connectionName,.ended,.connection stub.connectionName⟩)
    else (s,[])

-- RemoteExecutorStub::OnMessage
def stubMessage (s : RemoteSystem) (stub : RemoteExecutorStub) (connectionName : Bytes) (request : Attributes)
    (answers : BeginAnswers) : RemoteSystem × List Touch :=
  match request.getInt32Value ATTR_MSG_TYPE,request.getUint64Value ATTR_SCHEDULE_ID with
  | some msgType,some scheduleId =>
    if msgType == MessageType.SEND_DATA_TO_EXECUTOR && answers.select stub.executorIndex then
      (s,(s.executionsAt stub.executorIndex scheduleId).map (⟨connectionName,.delivered,·⟩))
    else (s,[])
  | _,_ => (s,[])

-- RemoteExecutorProxy::OnMessage
def proxyMessage (s : RemoteSystem) (proxy : RemoteExecutorProxy) (connectionName : Bytes) (request : Attributes) :
    RemoteSystem × List Touch :=
  if proxy.connectionName != connectionName then (s,[])
  else
    match request.getInt32Value ATTR_MSG_TYPE,request.getUint64Value ATTR_SCHEDULE_ID with
    | some msgType,some scheduleId =>
      let node := (s.selectScheduleNodeByScheduleId scheduleId).toList
      if msgType == MessageType.EXECUTOR_SEND_DATA then
        if (request.getInt32Value ATTR_DEST_ROLE).isSome && proxy.messenger then
          (s,node.map fun schedule => ⟨connectionName,.delivered,schedule.origin⟩)
        else (s,[])
      else if msgType == MessageType.EXECUTOR_FINISH then
        if (request.getInt32Value ATTR_RESULT_CODE).isSome && proxy.messenger then
          (s,node.map fun schedule => ⟨connectionName,.finished,schedule.origin⟩)
        else (s,[])
      else (s,[])
    | _,_ => (s,[])

def receive (s : RemoteSystem) (message : Attributes) (answers : BeginAnswers) : RemoteSystem × List Touch :=
  match parseMessage message with
  | none => (s,[])
  | some (connectionName,destEndPoint) =>
    match findListener s.listeners connectionName destEndPoint with
    | some .remoteAuthService => s.serviceMessage connectionName message answers
    | some (.executorStub ref) =>
      match s.liveStub ref with
      | none => (s,[])
      | some stub => s.stubMessage stub connectionName message answers
    | some (.executorProxy ref) =>
      match s.proxies.find? (·.ref == ref) with
      | none => (s,[])
      | some proxy => s.proxyMessage proxy connectionName message
    | _ => (s,[])

def startProxy (s : RemoteSystem) (connectionName : Bytes) : RemoteSystem :=
  let registered := registerListener s.listeners connectionName EXECUTOR_PROXY_ENDPOINT_NAME (.executorProxy s.nextRef)
  {s with
    listeners:=registered.getD s.listeners,
    proxies:=s.proxies ++ [⟨s.nextRef,connectionName,false⟩],
    nextRef:=s.nextRef + 1}

def destroyProxy (s : RemoteSystem) (ref : Nat) : RemoteSystem :=
  match s.proxies.find? (·.ref == ref) with
  | none => s
  | some proxy => {s with
    listeners:=unregisterListener s.listeners proxy.connectionName EXECUTOR_PROXY_ENDPOINT_NAME,
    proxies:=s.proxies.filter (·.ref != ref)}

def elsewhere (key : ListenerKey) : Bool :=
  key.endPointName != EXECUTOR_STUB_ENDPOINT_NAME && key.endPointName != EXECUTOR_PROXY_ENDPOINT_NAME

-- The holder of a remote execution keeps the node it was made with.
def mayHold (s : RemoteSystem) (ref : Nat) : Bool :=
  s.contextPool.pool.contexts.all fun context => context.ref != ref || context.contextType != .scheduleHolder

def step (s : RemoteSystem) : RemoteOp → RemoteSystem × List Touch
  | .receive message answers => s.receive message answers
  | .endExecute request removing =>
    ({s with toRemoteAuthService:=(s.procEndExecuteRequest request removing).1},[])
  | .connectionDown connectionName => ({s with listeners:=onConnectionDown s.listeners connectionName},[])
  | .listen key ref =>
    (if elsewhere key then
      {s with listeners:=(registerListener s.listeners key.connectionName key.endPointName (.other ref)).getD s.listeners}
    else s,[])
  | .unlisten key =>
    (if elsewhere key then {s with listeners:=unregisterListener s.listeners key.connectionName key.endPointName} else s,[])
  | .startProxy connectionName => (s.startProxy connectionName,[])
  | .messengerReady ref =>
    ({s with proxies:=s.proxies.map fun proxy => if proxy.ref == ref then {proxy with messenger:=true} else proxy},[])
  | .destroyProxy ref => (s.destroyProxy ref,[])
  | .setScheduleList ref schedules =>
    (if s.mayHold ref then {s with scheduleNodes:=Function.update s.scheduleNodes ref schedules} else s,[])
  | .beginExecution execution => ({s with executions:=s.executions ++ [execution]},[])
  | .endExecution execution => ({s with executions:=s.executions.erase execution},[])
  | .pool op => ({s with contextPool:=(s.contextPool.step op).1},[])

end RemoteSystem

def remoteMachine : Mealy RemoteSystem RemoteOp Touch := ⟨RemoteSystem.step⟩

end UserAuth
