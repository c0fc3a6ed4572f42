import UserAuth.Common.Attributes

namespace UserAuth

-- What an engine call hands back. A refused call leaves its out-parameters at
-- their defaults, and its code is never that of success.
inductive EngineReply (α : Type) where
  | refused (code : ResultCode) (failed : code ≠ ResultCode.SUCCESS)
  | answered (value : α)

namespace EngineReply

def code : EngineReply α → ResultCode
  | .refused code _ => code
  | .answered _ => ResultCode.SUCCESS

def value (initial : α) : EngineReply α → α
  | .refused _ _ => initial
  | .answered value => value

theorem refused_code {answer : ResultCode} (failed : answer ≠ ResultCode.SUCCESS) :
    (EngineReply.refused answer failed : EngineReply α).code ≠ ResultCode.SUCCESS := failed

end EngineReply

def setLatestError (latestError error : ResultCode) : ResultCode :=
  if error != ResultCode.SUCCESS then error else latestError

theorem generalError_failure : ResultCode.GENERAL_ERROR ≠ ResultCode.SUCCESS := by decide

theorem setLatestError_failure (failure : latestError ≠ ResultCode.SUCCESS) :
    setLatestError latestError error ≠ ResultCode.SUCCESS := by
  unfold setLatestError
  split
  · rename_i failed; simpa using failed
  · exact failure

structure EngScheduleInfo where
  scheduleId : UInt64
  authType : AuthType
  executorIndexes : List UInt64
  executorMessages : List Bytes

structure EngExecutorSendMsg where
  executorIndex : UInt64
  commandId : Int32
  msg : Bytes

structure EngAuthResultInfo where
  result : ResultCode := 0
  authTrustLevel : Option UInt32 := none
  lockoutDuration : Int32 := 0
  remainAttempts : Int32 := 0
  msgs : List EngExecutorSendMsg := []
  token : Bytes := []
  rootSecret : Bytes := []
  userId : Int32 := 0
  credentialId : UInt64 := 0
  pinExpiredInfo : Int64 := 0
  remoteAuthResultMsg : Bytes := []
  reEnrollFlag : Bool := false

structure EngEnrolledState where
  credentialDigest : UInt64 := 0
  credentialCount : UInt16 := 0

-- The engine issues a token or root secret only with success or with its
-- verdict on the password's complexity.
structure AuthUpdateAnswer where
  info : EngAuthResultInfo
  enrolledState : EngEnrolledState
  guarded : info.token ≠ [] ∨ info.rootSecret ≠ [] →
    info.result = ResultCode.SUCCESS ∨ info.result = ResultCode.COMPLEXITY_CHECK_FAILED

end UserAuth
