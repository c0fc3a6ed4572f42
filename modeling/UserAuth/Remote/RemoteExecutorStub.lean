import Mathlib.Logic.Function.Basic
import UserAuth.Engine.EngineReply
import UserAuth.Pool.Conservation
import UserAuth.Remote.ConnectListener

namespace UserAuth
open Attributes RemoteConnectListenerManager Std

inductive Listener where
  | remoteAuthService
  | executorStub (ref : Nat)
  | executorProxy (ref : Nat)
  | other (ref : Nat)
  deriving DecidableEq,Repr

-- Where a schedule or an execution was begun.
inductive Origin where
  | here
  | connection (connectionName : Bytes)
  deriving DecidableEq,Repr

structure LiveSchedule where
  scheduleId : UInt64
  origin : Origin
  deriving DecidableEq,Repr

namespace ContextFactory

def createScheduleHolderContext (contextId : UInt64) (createTime : Nat) : Context :=
  ⟨0,contextId,createTime,.scheduleHolder,0,0,[0],.DEFAULT,"",false⟩

end ContextFactory

-- `ref` is the object's identity. The callback remembers the schedule id that
-- its task will end when the connection is lost.
structure RemoteExecutorStub where
  ref : Nat
  connectionCallback : Option UInt64 := none
  remoteScheduleNode : Option UInt64 := none
  executorIndex : UInt64 := 0
  connectionName : Bytes := []
  contextId : Option UInt64 := none
  deriving DecidableEq,Repr

-- What the surroundings answer in the course of one BEGIN_EXECUTE.
structure BeginAnswers where
  getLocalScheduleFromMessage : Bytes → Bytes → EngineReply EngScheduleInfo
  select : UInt64 → Bool
  registerResourceNodePoolListener : Bool
  newContextId : UInt64
  createTime : Nat
  beginExecute : UInt64 → Attributes → ResultCode
  admitting : PreemptAnswers
  removing : PreemptAnswers

namespace RemoteExecutorStub

-- A stub in set-up, the schedule id it traces, and what it shares with others.
-- `scheduleNodes` gives the schedules that each context object holds.
structure Beginning where
  stub : RemoteExecutorStub
  scheduleId : UInt64
  listeners : List (ListenerInfo Listener)
  contextPool : PoolState
  scheduleNodes : Nat → List LiveSchedule

def localSchedule (attr : Attributes) (answers : BeginAnswers) : Option (UInt64 × UInt64 × Bytes) :=
  match attr.getStringValue ATTR_MSG_SRC_UDID,attr.getUint8ArrayValue ATTR_SCHEDULE_DATA with
  | some srcUdid,some scheduleData =>
    match answers.getLocalScheduleFromMessage srcUdid scheduleData with
    | .refused _ _ => none
    | .answered scheduleInfo =>
      match scheduleInfo.executorIndexes,scheduleInfo.executorMessages with
      | [executorIndex],[message] => some (scheduleInfo.scheduleId,executorIndex,message)
      | _,_ => none
  | _,_ => none

-- The second half, once the stub listens on its connection.
def beginListening (s : Beginning) (attr : Attributes) (answers : BeginAnswers) : Beginning × ResultCode :=
  match localSchedule attr answers with
  | none => (s,ResultCode.GENERAL_ERROR)
  | some (scheduleId,executorIndex,message) =>
    let s := {s with stub:={s.stub with executorIndex}}
    if !answers.select executorIndex then (s,ResultCode.GENERAL_ERROR)
    else
      let s := {s with stub:={s.stub with remoteScheduleNode:=some scheduleId}}
      if !answers.registerResourceNodePoolListener then (s,ResultCode.GENERAL_ERROR)
      else
        let context := ContextFactory.createScheduleHolderContext answers.newContextId answers.createTime
        let scheduled := s.contextPool.step (.schedule answers.admitting context)
        let s := {s with
          contextPool:=scheduled.1,
          scheduleNodes:=Function.update s.scheduleNodes s.contextPool.nextRef
            [⟨scheduleId,.connection s.stub.connectionName⟩]}
        -- Schedule answers false where no plan comes of it
        if scheduled.2.isEmpty then (s,ResultCode.GENERAL_ERROR)
        else
          let s := {s with stub:={s.stub with contextId:=some context.contextId}}
          match attr.set (setUint8ArrayValue ATTR_EXTRA_INFO message) with
          | none => (s,ResultCode.GENERAL_ERROR)
          | some attr => (s,answers.beginExecute scheduleId attr)

def procBeginExecuteRequest (s : Beginning) (attr : Attributes) (answers : BeginAnswers) : Beginning × ResultCode :=
  match attr.getUint64Value ATTR_SCHEDULE_ID with
  | none => (s,ResultCode.GENERAL_ERROR)
  | some scheduleId =>
    let s := {s with stub:={s.stub with connectionCallback:=some scheduleId},scheduleId}
    match attr.getStringValue ATTR_CONNECTION_NAME with
    | none => (s,ResultCode.GENERAL_ERROR)
    | some connectionName =>
      let s := {s with stub:={s.stub with connectionName}}
      match registerListener s.listeners connectionName EXECUTOR_STUB_ENDPOINT_NAME (.executorStub s.stub.ref) with
      | none => (s,ResultCode.GENERAL_ERROR)
      | some listeners => beginListening {s with listeners} attr answers

end RemoteExecutorStub

structure RemoteAuthService where
  scheduleId2executorStub : ExtTreeMap UInt64 RemoteExecutorStub
  listeners : List (ListenerInfo Listener)
  contextPool : PoolState
  scheduleNodes : Nat → List LiveSchedule
  nextRef : Nat

namespace RemoteAuthService
open RemoteExecutorStub

-- The destructor: nobody owns a stub but the map and the call that makes it.
def destroy (s : RemoteAuthService) (removing : PreemptAnswers) (stub : RemoteExecutorStub) : RemoteAuthService :=
  {s with
    listeners:=
      if stub.connectionCallback.isSome then
        unregisterListener s.listeners stub.connectionName EXECUTOR_STUB_ENDPOINT_NAME
      else s.listeners,
    contextPool:=
      match stub.contextId with
      | none => s.contextPool
      | some contextId => (s.contextPool.step (.delete removing contextId)).1}

def procBeginExecuteRequest (s : RemoteAuthService) (request : Attributes) (answers : BeginAnswers) :
    RemoteAuthService × ResultCode :=
  let begun := RemoteExecutorStub.procBeginExecuteRequest
    ⟨{ref:=s.nextRef},0,s.listeners,s.contextPool,s.scheduleNodes⟩ request answers
  let executorStub := begun.1.stub
  let s := {s with
    listeners:=begun.1.listeners,
    contextPool:=begun.1.contextPool,
    scheduleNodes:=begun.1.scheduleNodes,
    nextRef:=s.nextRef + 1}
  if begun.2 != ResultCode.SUCCESS then (s.destroy answers.removing executorStub,ResultCode.GENERAL_ERROR)
  -- the map keeps what it holds under the key, and the new stub goes
  else if s.scheduleId2executorStub.contains begun.1.scheduleId then
    (s.destroy answers.removing executorStub,ResultCode.SUCCESS)
  else
    ({s with scheduleId2executorStub:=s.scheduleId2executorStub.insert begun.1.scheduleId executorStub},ResultCode.SUCCESS)

def procEndExecuteRequest (s : RemoteAuthService) (request : Attributes) (removing : PreemptAnswers) :
    RemoteAuthService × ResultCode :=
  match request.getUint64Value ATTR_SCHEDULE_ID with
  | none => (s,ResultCode.GENERAL_ERROR)
  | some scheduleId =>
    match s.scheduleId2executorStub[scheduleId]? with
    | none => (s,ResultCode.GENERAL_ERROR)
    | some executorStub =>
      ({s with scheduleId2executorStub:=s.scheduleId2executorStub.erase scheduleId}.destroy removing executorStub,
        ResultCode.SUCCESS)

end RemoteAuthService
end UserAuth
