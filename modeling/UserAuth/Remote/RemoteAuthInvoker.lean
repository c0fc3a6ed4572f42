import UserAuth.Contexts.BaseContext
import UserAuth.Lib.Mealy
import UserAuth.Remote.RemoteMessage

namespace UserAuth
open Attributes

structure RemoteAuthInvokerContextParam where
  connectionName : String := ""
  verifierNetworkId : String := ""
  collectorNetworkId : String := ""
  tokenId : UInt32 := 0
  collectorTokenId : UInt32 := 0
  callerName : String := ""
  callerType : Int32 := -1

structure RemoteAuthInvokerContext where
  authParam : AuthParamInner := {}
  param : RemoteAuthInvokerContextParam := {}
  base : BaseContext := {}
  -- Start was granted and OnStart has not run.
  starting : Bool := false
  verifierUdid : String := ""
  verifierContextId : Option UInt64 := none
  cancelTimer : Bool := false

namespace RemoteAuthInvokerContext

inductive Output where
  | registerTimer
  | registerConnectionListener (connectionName endPointName : String)
  | openConnection (connectionName networkId : String) (tokenId : UInt32)
  | sendMessage (connectionName srcEndPoint destEndPoint : String) (request : Attributes)
  | onAcquireInfo (destRole tipInfo : Int32) (message : Attributes)
  | onResult (resultCode : ResultCode) (attr : Attributes)
  | reply (resultCode : ResultCode)

abbrev Outcome := RemoteAuthInvokerContext × List Output

-- What the devices, the listener table and the connection answer to OnStart.
structure StartEnv where
  verifierUdid : Option String
  localUdid : Bool
  messageCallback : Bool
  registerResult : ResultCode
  connectResult : ResultCode

def onStart (s : RemoteAuthInvokerContext) (env : StartEnv) : Outcome × Bool :=
  let s := {s with cancelTimer:=true}
  match env.verifierUdid with
  | none => ((s,[.registerTimer]),false)
  | some verifierUdid =>
    let s := {s with verifierUdid}
    let register := Output.registerConnectionListener s.param.connectionName REMOTE_AUTH_INVOKER_CONTEXT_ENDPOINT_NAME
    let openConnection := Output.openConnection s.param.connectionName s.param.verifierNetworkId s.param.tokenId
    if !env.localUdid || !env.messageCallback then ((s,[.registerTimer]),false)
    else if env.registerResult != ResultCode.SUCCESS then ((s,[.registerTimer,register]),false)
    else if env.connectResult != ResultCode.SUCCESS then
      let base := {s.base with latestError:=setLatestError s.base.latestError ResultCode.REMOTE_DEVICE_CONNECTION_FAIL}
      (({s with base},[.registerTimer,register,openConnection]),false)
    else ((s,[.registerTimer,register,openConnection]),true)

def requestSetters (s : RemoteAuthInvokerContext) : List Setter :=
  [setInt32Value ATTR_MSG_TYPE START_REMOTE_AUTH] ++ RemoteMsgUtil.encodeAuthParam s.authParam ++
  [setUint32Value ATTR_COLLECTOR_TOKEN_ID s.param.collectorTokenId,setStringValue ATTR_CALLER_NAME s.param.callerName,
    setInt32Value ATTR_CALLER_TYPE s.param.callerType,setStringValue ATTR_COLLECTOR_NETWORK_ID s.param.collectorNetworkId]

-- The executor info is the request's start. A request that cannot be completed is not sent.
def sendRequest (s : RemoteAuthInvokerContext) (executorInfo : EngineReply Attributes) (sendMsgRet : ResultCode) :
    Outcome × Bool :=
  match executorInfo with
  | .refused code _ => (({s with base:={s.base with latestError:=setLatestError s.base.latestError code}},[]),false)
  | .answered request =>
    let encoded := request.setAll (requestSetters s)
    if !encoded.2 then ((s,[]),false)
    else ((s,[.sendMessage s.param.connectionName REMOTE_AUTH_INVOKER_CONTEXT_ENDPOINT_NAME REMOTE_SERVICE_ENDPOINT_NAME
      encoded.1]),sendMsgRet == ResultCode.SUCCESS)

def onConnectStatus (s : RemoteAuthInvokerContext) (connectionName : String) (connectStatus : ConnectStatus)
    (executorInfo : EngineReply Attributes) (sendMsgRet : ResultCode) : Outcome :=
  if s.param.connectionName != connectionName then (s,[])
  else match connectStatus with
    | .DISCONNECTED => (s,[.onResult ResultCode.REMOTE_DEVICE_CONNECTION_FAIL Attributes.empty])
    | .CONNECTED =>
      let sent := sendRequest s executorInfo sendMsgRet
      if !sent.2 then Mealy.andThen sent.1 fun s => (s,[.onResult s.base.latestError Attributes.empty]) else sent.1

-- The callback of the START_REMOTE_AUTH message.
def onBeginReply (s : RemoteAuthInvokerContext) (reply : Attributes) : Outcome :=
  match reply.getInt32Value ATTR_RESULT_CODE with
  | none => (s,[])
  | some resultCode =>
    if resultCode != ResultCode.SUCCESS then (s,[.onResult resultCode Attributes.empty])
    else match reply.getUint64Value ATTR_CONTEXT_ID with
      | none => (s,[])
      | some contextId => ({s with verifierContextId:=some contextId},[])

def procAuthTipMsg (message : Attributes) : List Output × ResultCode :=
  match message.getInt32Value ATTR_DEST_ROLE,message.getInt32Value ATTR_TIP_INFO with
  | some destRole,some tipInfo => ([.onAcquireInfo destRole tipInfo message],ResultCode.SUCCESS)
  | _,_ => ([],ResultCode.GENERAL_ERROR)

abbrev AuthResultEngine := String → Bytes → EngineReply EngAuthResultInfo

def verifiedSetters (authResultInfo : EngAuthResultInfo) : List Setter :=
  given (authResultInfo.result == ResultCode.FAIL || authResultInfo.result == ResultCode.LOCKED ||
      authResultInfo.result == ResultCode.SUCCESS)
    [setInt32Value ATTR_LOCKOUT_DURATION authResultInfo.lockoutDuration,
      setInt32Value ATTR_REMAIN_ATTEMPTS authResultInfo.remainAttempts] ++
  given (authResultInfo.result == ResultCode.SUCCESS)
    [setUint8ArrayValue ATTR_SIGNATURE authResultInfo.token,setBoolValue ATTR_TOKEN_FROM_REMOTE_DEVICE true,
      setInt32Value ATTR_USER_ID authResultInfo.userId]

structure Parsed where
  ret : ResultCode
  resultCode : ResultCode
  attr : Attributes

def storeResult (resultCode : ResultCode) (setters : List Setter) : Parsed :=
  let stored := Attributes.empty.setAll (setters ++ [setInt32Value ATTR_RESULT resultCode])
  ⟨if stored.2 then ResultCode.SUCCESS else ResultCode.GENERAL_ERROR,resultCode,stored.1⟩

-- The result code is the unsigned one until the engine's verdict replaces it.
def procAuthResultMsgInner (s : RemoteAuthInvokerContext) (message : Attributes) (engine : AuthResultEngine) : Parsed :=
  match message.getInt32Value ATTR_RESULT with
  | none => ⟨ResultCode.GENERAL_ERROR,ResultCode.GENERAL_ERROR,Attributes.empty⟩
  | some resultCode =>
    match message.getUint8ArrayValue ATTR_SIGNED_AUTH_RESULT with
    | some remoteAuthResult =>
      match engine s.verifierUdid remoteAuthResult with
      | .refused _ _ => ⟨ResultCode.GENERAL_ERROR,resultCode,Attributes.empty⟩
      | .answered authResultInfo => storeResult authResultInfo.result (verifiedSetters authResultInfo)
    | none => storeResult (if resultCode == ResultCode.SUCCESS then ResultCode.GENERAL_ERROR else resultCode) []

def procAuthResultMsg (s : RemoteAuthInvokerContext) (message : Attributes) (engine : AuthResultEngine) :
    List Output × ResultCode :=
  let parsed := procAuthResultMsgInner s message engine
  ([.onResult parsed.resultCode parsed.attr],parsed.ret)

def onMessage (s : RemoteAuthInvokerContext) (request : Attributes) (engine : AuthResultEngine) : Outcome :=
  match request.getInt32Value ATTR_MSG_TYPE with
  | none => (s,[])
  | some msgType =>
    let processed := if msgType == SEND_REMOTE_AUTH_TIP then procAuthTipMsg request
      else if msgType == SEND_REMOTE_AUTH_RESULT then procAuthResultMsg s request engine
      else ([],ResultCode.GENERAL_ERROR)
    (s,processed.1 ++ if processed.2 == ResultCode.SUCCESS then [.reply ResultCode.SUCCESS] else [])

def onStop (s : RemoteAuthInvokerContext) : Outcome := (s,[.onResult ResultCode.CANCELED Attributes.empty])

def onTimeOut (s : RemoteAuthInvokerContext) : Outcome := (s,[.onResult ResultCode.TIMEOUT Attributes.empty])

def onStartFailed (s : RemoteAuthInvokerContext) (errorCode : ResultCode) : Outcome :=
  let failed := s.base.onStartFailed errorCode
  ({s with base:=failed.1},match failed.2 with
    | none => []
    | some code => [.onResult code Attributes.empty])

def start (s : RemoteAuthInvokerContext) : Outcome :=
  let started := s.base.start
  let s := {s with base:=started.1}
  if started.2 then ({s with starting:=true},[]) else onStartFailed s s.base.latestError

def stop (s : RemoteAuthInvokerContext) : Outcome :=
  let stopped := s.base.stop
  let s := {s with base:=stopped.1}
  match stopped.2 with
  | .alreadyRequested => (s,[])
  | .beforeStart => onStartFailed s ResultCode.CANCELED
  | .onStop => onStop s

inductive Input where
  | start
  | started (env : StartEnv)
  | stop
  | timeOut
  | connectStatus (connectionName : String) (connectStatus : ConnectStatus) (executorInfo : EngineReply Attributes)
      (sendMsgRet : ResultCode)
  | beginReply (reply : Attributes)
  | message (request : Attributes) (engine : AuthResultEngine)

def step (s : RemoteAuthInvokerContext) : Input → Outcome
  | .start => start s
  | .started env =>
    if !s.starting then (s,[])
    else
      let started := onStart {s with starting:=false} env
      if !started.2 then Mealy.andThen started.1 fun s => onStartFailed s s.base.latestError else started.1
  | .stop => stop s
  | .timeOut => if s.cancelTimer then onTimeOut s else (s,[])
  | .connectStatus connectionName connectStatus executorInfo sendMsgRet =>
    onConnectStatus s connectionName connectStatus executorInfo sendMsgRet
  | .beginReply reply => onBeginReply s reply
  | .message request engine => onMessage s request engine

def machine : Mealy RemoteAuthInvokerContext Input Output := ⟨step⟩

-- The reply carries a signed result, the engine has verified it, and it says success.
def Verified (s : RemoteAuthInvokerContext) : Input → Prop
  | .message request engine => ∃ remoteAuthResult authResultInfo,
    request.getUint8ArrayValue ATTR_SIGNED_AUTH_RESULT = some remoteAuthResult ∧
    engine s.verifierUdid remoteAuthResult = .answered authResultInfo ∧ authResultInfo.result = ResultCode.SUCCESS
  | _ => False

def Authentic (s : RemoteAuthInvokerContext) (input : Input) : Prop :=
  ∀ attr, .onResult ResultCode.SUCCESS attr ∈ (step s input).2 → Verified s input

-- Where a result message says success outside its signed part, the engine
-- does not refuse that part.
def Unrefused (s : RemoteAuthInvokerContext) : Input → Prop
  | .message request engine =>
    request.getInt32Value ATTR_MSG_TYPE = some SEND_REMOTE_AUTH_RESULT →
    request.getInt32Value ATTR_RESULT = some ResultCode.SUCCESS →
    ∀ remoteAuthResult, request.getUint8ArrayValue ATTR_SIGNED_AUTH_RESULT = some remoteAuthResult →
      ∃ authResultInfo, engine s.verifierUdid remoteAuthResult = .answered authResultInfo
  | _ => True

def Failing (s : RemoteAuthInvokerContext) : Prop := s.base.latestError ≠ ResultCode.SUCCESS

def Unsuccessful : Output → Prop
  | .onResult resultCode _ => resultCode ≠ ResultCode.SUCCESS
  | _ => True

section Steps
variable {s : RemoteAuthInvokerContext}

theorem onStartFailed_failing (failing : Failing s) : Failing (onStartFailed s errorCode).1 :=
  (BaseContext.onStartFailed_error errorCode).trans_ne failing

theorem onStartFailed_unsuccessful (failed : errorCode ≠ ResultCode.SUCCESS) :
    ∀ output ∈ (onStartFailed s errorCode).2, Unsuccessful output := by
  unfold onStartFailed BaseContext.onStartFailed
  split
  · simp
  · simpa [Unsuccessful] using failed

theorem onStart_failing (failing : Failing s) : Failing (onStart s env).1.1 := by
  unfold onStart
  dsimp only
  split
  · exact failing
  · split
    · exact failing
    · split
      · exact failing
      · split
        · show setLatestError s.base.latestError ResultCode.REMOTE_DEVICE_CONNECTION_FAIL ≠ ResultCode.SUCCESS
          exact setLatestError_failure failing
        · exact failing

theorem onStart_unsuccessful : ∀ output ∈ (onStart s env).1.2, Unsuccessful output := by
  unfold onStart
  dsimp only
  split
  · simp [Unsuccessful]
  · split
    · simp [Unsuccessful]
    · split
      · simp [Unsuccessful]
      · split <;> simp [Unsuccessful]

theorem sendRequest_failing (failing : Failing s) : Failing (sendRequest s executorInfo sendMsgRet).1.1 := by
  cases executorInfo with
  | refused => exact setLatestError_failure failing
  | answered request =>
    unfold sendRequest
    dsimp only
    split <;> exact failing

theorem sendRequest_unsuccessful : ∀ output ∈ (sendRequest s executorInfo sendMsgRet).1.2, Unsuccessful output := by
  cases executorInfo with
  | refused => simp [sendRequest]
  | answered request =>
    unfold sendRequest
    dsimp only
    split <;> simp [Unsuccessful]

theorem onConnectStatus_failing (failing : Failing s) :
    Failing (onConnectStatus s connectionName connectStatus executorInfo sendMsgRet).1 := by
  have sent : Failing (sendRequest s executorInfo sendMsgRet).1.1 := sendRequest_failing failing
  unfold onConnectStatus
  split
  · exact failing
  · cases connectStatus with
    | DISCONNECTED => exact failing
    | CONNECTED =>
      dsimp only
      split <;> exact sent

theorem onConnectStatus_unsuccessful (failing : Failing s) :
    ∀ output ∈ (onConnectStatus s connectionName connectStatus executorInfo sendMsgRet).2, Unsuccessful output := by
  have sent : Failing (sendRequest s executorInfo sendMsgRet).1.1 := sendRequest_failing failing
  have quiet : ∀ output ∈ (sendRequest s executorInfo sendMsgRet).1.2, Unsuccessful output := sendRequest_unsuccessful
  unfold onConnectStatus
  split
  · simp
  · cases connectStatus with
    | DISCONNECTED =>
      have failed : ResultCode.REMOTE_DEVICE_CONNECTION_FAIL ≠ ResultCode.SUCCESS := by decide
      simpa [Unsuccessful] using failed
    | CONNECTED =>
      dsimp only
      split
      · refine (Mealy.forall_andThen Unsuccessful).mpr ⟨quiet,?_⟩
        simpa [Unsuccessful,Failing] using sent
      · exact quiet

theorem onBeginReply_failing (failing : Failing s) : Failing (onBeginReply s reply).1 := by
  unfold onBeginReply
  split
  · exact failing
  · split
    · exact failing
    · split <;> exact failing

theorem onBeginReply_unsuccessful : ∀ output ∈ (onBeginReply s reply).2, Unsuccessful output := by
  unfold onBeginReply
  split
  · simp
  · split
    · rename_i failed
      simpa [Unsuccessful] using failed
    · split <;> simp

theorem start_failing (failing : Failing s) : Failing (start s).1 := by
  have kept : Failing {s with base:=s.base.start.1} := BaseContext.start_failing failing
  unfold start
  dsimp only
  split
  · exact kept
  · exact onStartFailed_failing kept

theorem start_unsuccessful (failing : Failing s) : ∀ output ∈ (start s).2, Unsuccessful output := by
  have kept : Failing {s with base:=s.base.start.1} := BaseContext.start_failing failing
  unfold start
  dsimp only
  split
  · simp
  · exact onStartFailed_unsuccessful kept

theorem stop_failing (failing : Failing s) : Failing (stop s).1 := by
  have kept : Failing {s with base:=s.base.stop.1} := BaseContext.stop_error.trans_ne failing
  unfold stop
  dsimp only
  split
  · exact kept
  · exact onStartFailed_failing kept
  · exact kept

theorem stop_unsuccessful : ∀ output ∈ (stop s).2, Unsuccessful output := by
  have failed : ResultCode.CANCELED ≠ ResultCode.SUCCESS := by decide
  unfold stop
  dsimp only
  split
  · simp
  · exact onStartFailed_unsuccessful failed
  · simpa [onStop,Unsuccessful] using failed

theorem step_failing (s : RemoteAuthInvokerContext) (input : Input) (failing : Failing s) : Failing (step s input).1 := by
  cases input with
  | start => exact start_failing failing
  | started env =>
    simp only [step]
    split
    · exact failing
    · have started : Failing (onStart {s with starting:=false} env).1.1 := onStart_failing failing
      split
      · exact onStartFailed_failing started
      · exact started
  | stop => exact stop_failing failing
  | timeOut =>
    simp only [step]
    split <;> exact failing
  | connectStatus => exact onConnectStatus_failing failing
  | beginReply => exact onBeginReply_failing failing
  | message request engine =>
    simp only [step,onMessage]
    split <;> exact failing

-- A success in the result of a message is verified or is the unsigned one
-- left standing by the engine's refusal.
theorem parsed_success (message : Attributes) (engine : AuthResultEngine) :
    (procAuthResultMsgInner s message engine).resultCode = ResultCode.SUCCESS ↔
      (message.getInt32Value ATTR_RESULT ≠ none ∧ Verified s (.message message engine)) ∨
      (message.getInt32Value ATTR_RESULT = some ResultCode.SUCCESS ∧
        ∃ remoteAuthResult, message.getUint8ArrayValue ATTR_SIGNED_AUTH_RESULT = some remoteAuthResult ∧
          ∀ authResultInfo, engine s.verifierUdid remoteAuthResult ≠ .answered authResultInfo) := by
  have error : ResultCode.GENERAL_ERROR ≠ ResultCode.SUCCESS := generalError_failure
  cases unsigned : message.getInt32Value ATTR_RESULT with
  | none => simp [procAuthResultMsgInner,unsigned,error]
  | some resultCode =>
    cases signed : message.getUint8ArrayValue ATTR_SIGNED_AUTH_RESULT with
    | none =>
      by_cases success : resultCode = ResultCode.SUCCESS
      · simp [procAuthResultMsgInner,unsigned,signed,storeResult,Verified,success,error]
      · simp [procAuthResultMsgInner,unsigned,signed,storeResult,Verified,success]
    | some remoteAuthResult =>
      cases verdict : engine s.verifierUdid remoteAuthResult with
      | refused => simp [procAuthResultMsgInner,unsigned,signed,verdict,Verified]
      | answered => simp [procAuthResultMsgInner,unsigned,signed,verdict,Verified,storeResult]

theorem onMessage_success (request : Attributes) (engine : AuthResultEngine) (attr : Attributes) :
    .onResult ResultCode.SUCCESS attr ∈ (onMessage s request engine).2 ↔
      request.getInt32Value ATTR_MSG_TYPE = some SEND_REMOTE_AUTH_RESULT ∧
      (procAuthResultMsgInner s request engine).resultCode = ResultCode.SUCCESS ∧
      (procAuthResultMsgInner s request engine).attr = attr := by
  have tip : ∀ code, Output.onResult code attr ∉ (procAuthTipMsg request).1 := by
    intro code
    unfold procAuthTipMsg
    split <;> simp
  have replied (condition : Bool) :
      Output.onResult ResultCode.SUCCESS attr ∉ (if condition then [Output.reply ResultCode.SUCCESS] else []) := by
    cases condition <;> simp
  have apart : SEND_REMOTE_AUTH_TIP ≠ SEND_REMOTE_AUTH_RESULT := by decide
  cases type : request.getInt32Value ATTR_MSG_TYPE with
  | none => simp [onMessage,type]
  | some msgType =>
    simp only [onMessage,type,List.mem_append,replied,or_false,Option.some.injEq]
    by_cases isTip : msgType = SEND_REMOTE_AUTH_TIP
    · simp [isTip,tip,apart]
    · by_cases isResult : msgType = SEND_REMOTE_AUTH_RESULT
      · simp only [isResult,beq_iff_eq,apart.symm,if_false,if_true,procAuthResultMsg,List.mem_singleton,
          Output.onResult.injEq,true_and]
        exact and_congr eq_comm eq_comm
      · simp [isTip,isResult]

theorem onMessage_authentic (request : Attributes) (engine : AuthResultEngine) :
    Authentic s (.message request engine) ↔ Unrefused s (.message request engine) := by
  simp only [Authentic,step,onMessage_success,parsed_success,Unrefused]
  constructor
  · intro authentic result success remoteAuthResult signed
    by_contra refused
    have stands := authentic _ ⟨result,.inr ⟨success,remoteAuthResult,signed,not_exists.mp refused⟩,rfl⟩
    obtain ⟨other,authResultInfo,again,verdict,_⟩ := stands
    rw [signed] at again
    cases again
    exact refused ⟨authResultInfo,verdict⟩
  · intro unrefused attr reported
    obtain ⟨result,source,_⟩ := reported
    cases source with
    | inl verified => exact verified.2
    | inr stands =>
      obtain ⟨success,remoteAuthResult,signed,refused⟩ := stands
      obtain ⟨authResultInfo,verdict⟩ := unrefused result success remoteAuthResult signed
      exact absurd verdict (refused authResultInfo)

theorem authentic_of_unsuccessful (quiet : ∀ output ∈ (step s input).2, Unsuccessful output) : Authentic s input :=
  fun _ reported => absurd rfl (quiet _ reported)

theorem step_authentic (s : RemoteAuthInvokerContext) (input : Input) (failing : Failing s) :
    Authentic s input ↔ Unrefused s input := by
  cases input with
  | start => exact iff_of_true (authentic_of_unsuccessful (start_unsuccessful failing)) trivial
  | started env =>
    refine iff_of_true (authentic_of_unsuccessful ?_) trivial
    simp only [step]
    split
    · simp
    · have failing : Failing (onStart {s with starting:=false} env).1.1 := onStart_failing failing
      split
      · exact (Mealy.forall_andThen Unsuccessful).mpr ⟨onStart_unsuccessful,onStartFailed_unsuccessful failing⟩
      · exact onStart_unsuccessful
  | stop => exact iff_of_true (authentic_of_unsuccessful stop_unsuccessful) trivial
  | timeOut =>
    have failed : ResultCode.TIMEOUT ≠ ResultCode.SUCCESS := by decide
    refine iff_of_true (authentic_of_unsuccessful ?_) trivial
    simp only [step]
    split
    · simpa [onTimeOut,Unsuccessful] using failed
    · simp
  | connectStatus => exact iff_of_true (authentic_of_unsuccessful (onConnectStatus_unsuccessful failing)) trivial
  | beginReply => exact iff_of_true (authentic_of_unsuccessful onBeginReply_unsuccessful) trivial
  | message request engine => exact onMessage_authentic request engine

-- Over a whole run: success is only reported on a verified signed result
-- exactly when the engine refuses no signed part under an unsigned success.
theorem runs_authentic (authParam : AuthParamInner) (param : RemoteAuthInvokerContextParam) (inputs : List Input) :
    machine.Meets Authentic {authParam,param} inputs ↔ machine.Meets Unrefused {authParam,param} inputs := by
  have created : Failing {authParam,param} := generalError_failure
  exact Mealy.meets_congr step_failing step_authentic created inputs

end Steps

-- The peer claims success; the engine rejects the signed part.
def forgedMessage : Attributes :=
  Attributes.empty.setEach [setInt32Value ATTR_MSG_TYPE SEND_REMOTE_AUTH_RESULT,
    setInt32Value ATTR_RESULT ResultCode.SUCCESS,setUint8ArrayValue ATTR_SIGNED_AUTH_RESULT [0]]

def forgedSuccess : List Input :=
  [.start,.started ⟨some "verifier",true,true,ResultCode.SUCCESS,ResultCode.SUCCESS⟩,
    .message forgedMessage fun _ _ => .refused ResultCode.GENERAL_ERROR generalError_failure]

theorem forged_success_reported : ¬machine.Meets Authentic {} forgedSuccess := by
  intro authentic
  have reported := authentic.2.2.1 Attributes.empty ((onMessage_success _ _ _).mpr (by decide))
  obtain ⟨_,_,_,verdict,_⟩ := reported
  cases verdict

end RemoteAuthInvokerContext
end UserAuth
